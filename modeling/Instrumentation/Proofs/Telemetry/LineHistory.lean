import Instrumentation.Telemetry.LineFile
import Instrumentation.Proofs.Files.Appending
import Instrumentation.Proofs.Format.OneLine
import Instrumentation.Proofs.Telemetry.RecordReading
/-
  One line for each record

  Any number of sinks may be opened on one path, at any time, and records handed to them
  in any order. Opening leaves what the file holds as it is, and a record that is taken is
  added behind all that was there: its line, which holds no line break, and a line break.

  What is proved:
    1. `hand_cases` — handing over a record adds its block to the file, or it leaves all
       files as they were.
    2. `Holds.step`, `Holds.run` — so after every call the file holds what it held at
       first and the blocks of the records that were taken.
    3. `splitOn_blocks` — split at line breaks, that is the old lines and then one line for
       each record.
    4. `one_line_for_each_record` — the whole, for every sequence of calls.
-/

namespace Instrumentation.Telemetry

open Files (Tree)
open Files.Tree (Keeps keeps_makeParents keeps_openForAppend append_ok append_error)
open Format (Json bytes bytes_append)

/-! ## Calls on the sinks of one path -/

/-- How a record is handed over. -/
inductive Way where
  | write
  | track
  deriving DecidableEq, Repr

/-- Hands a record over. Gives whether it was taken, and the files then. A write says so
itself; tracking says nothing, but it logs an event or unwinds over a record that was not
taken. -/
def Way.hand (way : Way) (file : LineFile) (record : Record) (tree : Tree) : Bool × Tree :=
  match way with
  | write =>
    match (file.write record).run tree with
    | ⟨(.returned (.ok ()), after), _⟩ => (true, after)
    | ⟨(_, after), _⟩ => (false, after)
  | track =>
    match (file.sink record).run tree with
    | ⟨(.returned (), after), []⟩ => (true, after)
    | ⟨(_, after), _⟩ => (false, after)

/-- What calls on the file of one path came to: the files, the sinks that were opened, and
the records that were taken, in the order of the calls. -/
structure FileHistory where
  tree : Tree
  sinks : List LineFile := []
  written : List Record := []

namespace FileHistory

/-- A call. Sinks are known by the order in which they were opened. -/
inductive Call where
  | create
  | hand (way : Way) (sink : Nat) (record : Record)

def hand (history : FileHistory) (way : Way) (file : LineFile) (record : Record) : FileHistory :=
  match way.hand file record history.tree with
  | (true, tree) => { history with tree, written := history.written ++ [record] }
  | (false, tree) => { history with tree }

def step (path : String) (history : FileHistory) : Call → FileHistory
  | .create =>
    match ((LineFile.create path).run history.tree).value with
    | (.returned (.ok file), tree) => { history with tree, sinks := history.sinks ++ [file] }
    | (_, tree) => { history with tree }
  | .hand way sink record =>
    match history.sinks[sink]? with
    | none => history
    | some file => history.hand way file record

def run (path : String) (history : FileHistory) (calls : List Call) : FileHistory :=
  calls.foldl (step path) history

end FileHistory

/-! ## What a record adds -/

/-- The bytes of the line of a record. -/
def Record.lineBytes (record : Record) : List UInt8 := bytes record.data.compact

/-- What a record adds to a file: its line and a line break. -/
def Record.block (record : Record) : List UInt8 := record.lineBytes ++ [10]

theorem break_not_mem_lineBytes (record : Record) : 10 ∉ record.lineBytes := by
  intro h
  have hplain := Json.bytes_compact record.data 10 h
  contradiction

theorem bytes_line (record : Record) :
    (record.data.compact ++ "\n").toUTF8.data.toList = record.block := by
  have hbreak : bytes "\n" = [10] := by decide
  rw [Record.block, Record.lineBytes, ← hbreak, ← bytes_append]
  rfl

/-! ## Handing over a record -/

theorem run_write_unwound {record : Record} {p : Guard.Payload} (h : record.text = .unwound p)
    (file : LineFile) (tree : Tree) : (file.write record).run tree = ⟨(.unwound p, tree), []⟩ := by
  have hline : (Effect.ofOutcome record.text).run tree = ⟨(.unwound p, tree), []⟩ := by
    rw [h]
    rfl
  exact Effect.run_bind_unwound hline _

theorem run_write_returned {record : Record} {line : String} (h : record.text = .returned line)
    (file : LineFile) (tree : Tree) :
    (file.write record).run tree =
      match tree.append file.path (line ++ "\n").toUTF8 with
      | (.error cause, after) => ⟨(.returned (.error (.unwritten cause)), after), []⟩
      | (.ok (), after) => ⟨(.returned (.ok ()), after), []⟩ := by
  have hline : (Effect.ofOutcome record.text).run tree = ⟨(.returned line, tree), []⟩ := by
    rw [h]
    rfl
  have hchange : (Effect.ofChange (Files.Tree.append · file.path (line ++ "\n").toUTF8)).run tree =
      ⟨(.returned (tree.append file.path (line ++ "\n").toUTF8).1,
        (tree.append file.path (line ++ "\n").toUTF8).2), []⟩ := rfl
  unfold LineFile.write
  rw [Effect.run_bind_returned hline, Effect.run_bind_returned hchange]
  rcases tree.append file.path (line ++ "\n").toUTF8 with ⟨_ | _, after⟩
  · rfl
  · rfl

/-- A write adds the line of the record and returns, or all files are as they were and the
result is another one. -/
theorem write_cases (file : LineFile) (record : Record) (tree : Tree) :
    (∃ after, record.text = .returned record.data.compact ∧
      tree.append file.path (record.data.compact ++ "\n").toUTF8 = (.ok (), after) ∧
      (file.write record).run tree = ⟨(.returned (.ok ()), after), []⟩) ∨
    (∃ p, (file.write record).run tree = ⟨(.unwound p, tree), []⟩) ∨
    (∃ e, (file.write record).run tree = ⟨(.returned (.error e), tree), []⟩) := by
  have htext := text_eq record
  split at htext
  · have hrun := run_write_returned htext file tree
    rcases happend : tree.append file.path (record.data.compact ++ "\n").toUTF8 with
      ⟨cause | _, after⟩
    · right; right
      rw [happend] at hrun
      obtain rfl := append_error happend
      exact ⟨_, hrun⟩
    · left
      rw [happend] at hrun
      exact ⟨after, htext, rfl, hrun⟩
  · right; left
    exact ⟨_, run_write_unwound htext file tree⟩

/-- A record is taken and its line added, or all files are as they were. -/
theorem hand_cases (way : Way) (file : LineFile) (record : Record) (tree : Tree) :
    (∃ after, record.text = .returned record.data.compact ∧
      tree.append file.path (record.data.compact ++ "\n").toUTF8 = (.ok (), after) ∧
      way.hand file record tree = (true, after)) ∨
    way.hand file record tree = (false, tree) := by
  rcases write_cases file record tree with ⟨after, htext, happend, hwrite⟩ | ⟨p, hwrite⟩ |
    ⟨e, hwrite⟩
  · left
    refine ⟨after, htext, happend, ?_⟩
    cases way with
    | write => rw [Way.hand, hwrite]
    | track =>
      have hsink : (file.sink record).run tree = _ := Effect.run_bind_returned hwrite _
      rw [Way.hand, hsink]
      rfl
  · right
    cases way with
    | write => rw [Way.hand, hwrite]
    | track =>
      have hsink : (file.sink record).run tree = _ := Effect.run_bind_unwound hwrite _
      rw [Way.hand, hsink]
  · right
    cases way with
    | write => rw [Way.hand, hwrite]
    | track =>
      have hsink : (file.sink record).run tree = _ := Effect.run_bind_returned hwrite _
      rw [Way.hand, hsink]
      rfl

/-! ## Opening a sink -/

theorem value_create (path : String) (tree : Tree) :
    ((LineFile.create path).run tree).value =
      match tree.makeParents path with
      | (.error cause, after) => (.returned (.error (.unopened path cause)), after)
      | (.ok (), above) =>
        match above.openForAppend path with
        | (.error cause, after) => (.returned (.error (.unopened path cause)), after)
        | (.ok (), after) => (.returned (.ok ⟨path⟩), after) := by
  have hparents : (Effect.ofChange (Files.Tree.makeParents · path)).run tree =
      ⟨(.returned (tree.makeParents path).1, (tree.makeParents path).2), []⟩ := rfl
  unfold LineFile.create
  rw [Effect.run_bind_returned hparents]
  rcases tree.makeParents path with ⟨_ | _, above⟩
  · rfl
  · have hopen : (Effect.ofChange (Files.Tree.openForAppend · path)).run above =
        ⟨(.returned (above.openForAppend path).1, (above.openForAppend path).2), []⟩ := rfl
    simp only
    rw [Effect.run_bind_returned hopen]
    rcases above.openForAppend path with ⟨_ | _, after⟩
    · rfl
    · rfl

/-! ## What the file holds -/

/-- After calls on a path that began with the files of `first`, the file holds what it held
then, and behind it the blocks of the records that were taken. -/
structure Holds (path : String) (first : Tree) (history : FileHistory) : Prop where
  current : history.tree.current = first.current
  drain : history.tree.entry? (first.place path) ≠ some .drain
  content : history.tree.bytesAt (first.place path) =
    first.bytesAt (first.place path) ++ history.written.flatMap Record.block
  sinks : ∀ file ∈ history.sinks, file.path = path
  texts : ∀ record ∈ history.written, record.text = .returned record.data.compact

variable {path : String} {first : Tree} {history : FileHistory}

theorem Holds.start (h : first.entry? (first.place path) ≠ some .drain) :
    Holds path first { tree := first } where
  current := rfl
  drain := h
  content := (List.append_nil _).symm
  sinks := nofun
  texts := nofun

theorem Holds.place_eq (h : Holds path first history) :
    history.tree.place path = first.place path := by
  rw [Tree.place, h.current, Tree.place]

theorem Holds.keep (h : Holds path first history) {after : Tree}
    (hkeeps : Keeps (first.place path) history.tree after) {sinks : List LineFile}
    (hsinks : ∀ file ∈ sinks, file.path = path) :
    Holds path first { history with tree := after, sinks } where
  current := hkeeps.current.trans h.current
  drain hd := h.drain (hkeeps.drain hd)
  content := hkeeps.bytes.trans h.content
  sinks := hsinks
  texts := h.texts

theorem Holds.create (h : Holds path first history) :
    Holds path first (history.step path .create) := by
  have hparents := keeps_makeParents history.tree path
  rw [h.place_eq] at hparents
  unfold FileHistory.step
  rw [value_create]
  rcases hmade : history.tree.makeParents path with ⟨cause | _, above⟩ <;> rw [hmade] at hparents
  · exact h.keep hparents h.sinks
  · have hplace : above.place path = first.place path := by
      rw [Tree.place, hparents.current, ← Tree.place, h.place_eq]
    have hopen := keeps_openForAppend above path
    rw [hplace] at hopen
    simp only
    rcases hopened : above.openForAppend path with ⟨cause | _, after⟩ <;> rw [hopened] at hopen
    · exact h.keep (hparents.trans hopen) h.sinks
    · apply h.keep (hparents.trans hopen)
      intro file hfile
      rcases List.mem_append.1 hfile with hfile | hfile
      · exact h.sinks file hfile
      · rw [List.mem_singleton.1 hfile]

/-- A record that is taken adds its block. -/
theorem Holds.take (h : Holds path first history) {record : Record} {after : Tree}
    (htext : record.text = .returned record.data.compact)
    (happend : history.tree.append path (record.data.compact ++ "\n").toUTF8 = (.ok (), after)) :
    Holds path first { history with tree := after, written := history.written ++ [record] } := by
  have hdrain := h.drain
  rw [← h.place_eq] at hdrain
  obtain ⟨hcurrent, hafter, hbytes⟩ := append_ok hdrain happend
  rw [h.place_eq] at hafter hbytes
  refine ⟨hcurrent.trans h.current, hafter, ?_, h.sinks, ?_⟩
  · rw [hbytes, h.content, bytes_line, List.append_assoc, List.flatMap_append,
      List.flatMap_singleton]
  · intro other hother
    rcases List.mem_append.1 hother with hother | hother
    · exact h.texts other hother
    · rw [List.mem_singleton.1 hother, htext]

theorem Holds.hand (h : Holds path first history) (way : Way) {file : LineFile}
    (hfile : file.path = path) (record : Record) :
    Holds path first (history.hand way file record) := by
  unfold FileHistory.hand
  rcases hand_cases way file record history.tree with ⟨after, htext, happend, hhand⟩ | hhand
  · rw [hhand]
    rw [hfile] at happend
    exact h.take htext happend
  · rw [hhand]
    exact h

theorem Holds.step (h : Holds path first history) (call : FileHistory.Call) :
    Holds path first (history.step path call) := by
  cases call with
  | create => exact h.create
  | hand way sink record =>
    unfold FileHistory.step
    simp only
    split
    · exact h
    · next file hsink => exact h.hand way (h.sinks file (List.mem_of_getElem? hsink)) record

theorem Holds.run (calls : List FileHistory.Call) :
    ∀ {history : FileHistory}, Holds path first history →
      Holds path first (history.run path calls) := by
  induction calls with
  | nil =>
    intro history h
    exact h
  | cons call rest ih =>
    intro history h
    exact ih (h.step call)

/-- A record that cannot be written leaves everything as it was. -/
theorem step_of_unwound {record : Record} {p : Guard.Payload} (h : record.text = .unwound p)
    (path : String) (history : FileHistory) (way : Way) (sink : Nat) :
    history.step path (.hand way sink record) = history := by
  unfold FileHistory.step
  simp only
  split
  · rfl
  · next file hsink =>
    unfold FileHistory.hand
    rcases hand_cases way file record history.tree with ⟨after, htext, -, -⟩ | hhand
    · rw [h] at htext
      cases htext
    · rw [hhand]

/-! ## The lines of the file -/

/-- Split at line breaks, blocks are the lines that they were made of. What comes behind
the last line break is empty. -/
theorem splitOn_blocks (records : List Record) :
    (records.flatMap Record.block).splitOn 10 = records.map Record.lineBytes ++ [[]] := by
  induction records with
  | nil => rfl
  | cons record rest ih =>
    have hblock : (record :: rest).flatMap Record.block =
        record.lineBytes ++ 10 :: rest.flatMap Record.block := by
      rw [List.flatMap_cons, Record.block, List.append_assoc, List.singleton_append]
    have hbreak := break_not_mem_lineBytes record
    rw [hblock, List.splitOn_append_cons_self_of_not_mem hbreak, ih, List.map_cons,
      List.cons_append]

/-- If the file held whole lines, it holds these, and behind them the new ones. -/
theorem splitOn_append_blocks {content : List UInt8} (records : List Record)
    (h : content = [] ∨ content.getLast? = some 10) :
    ∃ lines, content.splitOn 10 = lines ++ [[]] ∧
      (content ++ records.flatMap Record.block).splitOn 10 =
        lines ++ records.map Record.lineBytes ++ [[]] := by
  rcases h with rfl | hlast
  · refine ⟨[], rfl, ?_⟩
    rw [List.nil_append, splitOn_blocks, List.nil_append]
  · obtain ⟨above, rfl⟩ := List.getLast?_eq_some_iff.1 hlast
    refine ⟨above.splitOn 10, ?_, ?_⟩
    · rw [List.splitOn_append_cons_self]
      rfl
    · rw [List.append_assoc, List.singleton_append, List.splitOn_append_cons_self,
        splitOn_blocks, List.append_assoc]

/-- Unless it is a device that drains what it is given, the file at the path holds after
any calls what it held before them, and then one block for each record that was taken, in
the order of the calls. A block is the text of its record, which holds no line break and
is an object from which all that the record says is read back, and a line break. -/
theorem one_line_for_each_record (path : String) (first : Tree) (calls : List FileHistory.Call)
    (hfile : first.entry? (first.place path) ≠ some .drain) :
    let last := FileHistory.run path { tree := first } calls
    let old := first.bytesAt (first.place path)
    let new := last.tree.bytesAt (last.tree.place path)
    new = old ++ last.written.flatMap Record.block ∧
    (∀ record ∈ last.written, ∃ line members, record.text = .returned line ∧
      record.block = bytes line ++ [10] ∧ 10 ∉ bytes line ∧
      Json.read? line = some (.object members) ∧ Line.ofText? line = some record.line) ∧
    (old = [] ∨ old.getLast? = some 10 →
      ∃ lines, old.splitOn 10 = lines ++ [[]] ∧
        new.splitOn 10 = lines ++ last.written.map Record.lineBytes ++ [[]]) ∧
    (∀ way sink record p, record.text = .unwound p →
      last.step path (.hand way sink record) = last) := by
  intro last old new
  have hholds : Holds path first last := (Holds.start hfile).run calls
  have hnew : new = old ++ last.written.flatMap Record.block := by
    show last.tree.bytesAt (last.tree.place path) = _
    rw [hholds.place_eq]
    exact hholds.content
  refine ⟨hnew, ?_, ?_, ?_⟩
  · intro record hrecord
    have htext := hholds.texts record hrecord
    obtain ⟨members, hmembers⟩ : ∃ members, record.data = .object members := by
      cases record with
      | dependency d => exact ⟨_, rfl⟩
      | exception e => exact ⟨_, rfl⟩
    refine ⟨_, members, htext, rfl, break_not_mem_lineBytes record, ?_, ofText?_text htext⟩
    rw [Json.read?_compact, hmembers]
  · intro hold
    rw [hnew]
    exact splitOn_append_blocks last.written hold
  · intro way sink record p hp
    exact step_of_unwound hp path last way sink

/-- An error in a year that cannot be written. -/
def distantError : Record :=
  .exception
    { spanId := "00ff"
      timestamp := ⟨10 ^ 13, 0, Time.nanosPerSecond_pos⟩
      fault := .root "late" }

/-- A file of one line, two sinks that are opened on it, and a record between two others
that cannot be written. -/
theorem one_line_for_each_record_of_reopened :
    let first : Tree := { entries := [(["t"], .file "old\n".toUTF8)] }
    let calls : List FileHistory.Call :=
      [.create, .hand .write 0 earlyError, .hand .write 0 distantError, .create,
        .hand .track 1 earlyError]
    let last := FileHistory.run "/t" { tree := first } calls
    let old := first.bytesAt (first.place "/t")
    let new := last.tree.bytesAt (last.tree.place "/t")
    first.entry? (first.place "/t") ≠ some .drain ∧
    last.written = [earlyError, earlyError] ∧
    (old = [] ∨ old.getLast? = some 10) ∧
    new = old ++ last.written.flatMap Record.block ∧
    (∀ record ∈ last.written, ∃ line members, record.text = .returned line ∧
      record.block = bytes line ++ [10] ∧ 10 ∉ bytes line ∧
      Json.read? line = some (.object members) ∧ Line.ofText? line = some record.line) ∧
    (old = [] ∨ old.getLast? = some 10 →
      ∃ lines, old.splitOn 10 = lines ++ [[]] ∧
        new.splitOn 10 = lines ++ last.written.map Record.lineBytes ++ [[]]) ∧
    (∀ way sink record p, record.text = .unwound p →
      last.step "/t" (.hand way sink record) = last) := by
  intro first calls last old new
  have hentry : first.entry? (first.place "/t") = some (.file "old\n".toUTF8) := by rfl
  have hfile : first.entry? (first.place "/t") ≠ some .drain := by
    rw [hentry]
    nofun
  have hold : old = [111, 108, 100, 10] := by
    show first.bytesAt (first.place "/t") = _
    rw [Tree.bytesAt, hentry]
    decide
  refine ⟨hfile, by decide +kernel, .inr (by rw [hold]; rfl), ?_⟩
  exact one_line_for_each_record "/t" first calls hfile

end Instrumentation.Telemetry
