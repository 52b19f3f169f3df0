import Mathlib.Logic.Function.Basic
import ParserTables.CommandLine
import ParserTables.Files.Tree
import ParserTables.Proofs.Table.Accepted
import ParserTables.Text.XidContinue

/-! What a command leaves behind.

The files are a plain map here, from paths to contents, and some paths may refuse to be
written (`Files.access`). A delivery saves what its file held and then writes the source,
so what it leaves is known path by path (`deliver_of_accepts`, `deliver_of_not_accepts`).
A run reads its report before that and has the whole source before the first write, so
that a failure before then leaves no trace, and a report is safe where the output or its
old content goes to (`runCommand_leaves`). -/
namespace ParserTables

/-- Files as a plain map: what is in the file at a path. -/
abbrev Files := Text → Option Content

namespace Files

def read (s : Files) (path : Text) : Except FileError Text :=
  match s path with
  | some (.text t) => .ok t
  | some (.bytes _) => .error .notText
  | none => .error .notFound

theorem read_eq_ok_iff {s : Files} {path t : Text} :
    s.read path = .ok t ↔ s path = some (.text t) := by
  unfold read
  split <;> simp_all

/-- Put a content into the file at a path, unless the path is refused. -/
def store (refusal : Text → Option FileError) (path : Text) (c : Content) :
    StateM Files (Except FileError Unit) := fun s =>
  match refusal path with
  | some e => (.error e, s)
  | none => (.ok (), Function.update s path (some c))

def copy (refusal : Text → Option FileError) (source path : Text) :
    StateM Files (Except FileError Unit) := fun s =>
  match s source with
  | some c => store refusal path c s
  | none => (.error .notFound, s)

/-- The file operations on a plain map. -/
def access (refusal : Text → Option FileError) : FileAccess (StateM Files) where
  read path := fun s => (s.read path, s)
  present path := fun s => ((s path).isSome, s)
  copy := copy refusal
  write path t := store refusal path (.text t)

section Steps
variable (refusal : Text → Option FileError) (path t : Text) (s : Files)

theorem access_read : (access refusal).read path s = (s.read path, s) := rfl

theorem access_present : (access refusal).present path s = ((s path).isSome, s) := rfl

theorem access_write : (access refusal).write path t s = store refusal path (.text t) s := rfl

theorem access_copy {c : Content} (h : s t = some c) :
    (access refusal).copy t path s = store refusal path c s := by
  show copy refusal t path s = _
  simp only [copy, h]

theorem run_bind {α β : Type} (x : StateM Files α) (f : α → StateM Files β) :
    (x >>= f) s = f (x s).1 (x s).2 := rfl

theorem run_ite {α : Type} (b : Bool) (x y : StateM Files α) :
    (if b = true then x else y) s = if b = true then x s else y s := by
  cases b <;> rfl

end Steps
end Files

/-! ### Arguments -/

/-- A command line that asks for a run. -/
def Invocation.arguments (i : Invocation) : List Text :=
  (i.output.elim [] fun path => ["--output=".toList ++ path]) ++
    [match i.target with | .cpp => "--lang=cpp".toList | .rust => "--lang=rust".toList] ++
    (match i.strictness with | .strict => [] | .legacy => ["--legacy".toList]) ++
    ["--".toList, i.input]

/-- Every run can be asked for, as long as its paths have characters. -/
theorem Request.parse?_arguments (i : Invocation) (hinput : i.input ≠ [])
    (houtput : i.output ≠ some []) : Request.parse? i.arguments = some (.run i) := by
  obtain ⟨input, output, target, strictness⟩ := i
  obtain ⟨c, cs, rfl⟩ := List.exists_cons_of_ne_nil hinput
  cases output with
  | none => cases target <;> cases strictness <;> rfl
  | some path =>
    obtain ⟨d, ds, rfl⟩ := List.exists_cons_of_ne_nil fun hnil : path = [] => houtput (hnil ▸ rfl)
    cases target <;> cases strictness <;> rfl

namespace Invocation
variable {refusal : Text → Option FileError}

/-! ### Delivery -/

theorem backup_ne (path : Text) : backup path ≠ path := fun h => by
  simpa [backup] using congrArg List.length h

/-- The files once the content of a file was put beside it, if it has any. -/
def saved (path : Text) (s : Files) : Files :=
  match s path with
  | none => s
  | some c => Function.update s (backup path) (some c)

theorem saved_backup {path : Text} {s : Files} {c : Content} (h : s path = some c) :
    saved path s (backup path) = some c := by
  simp only [saved, h, Function.update_self]

theorem saved_of_ne {path q : Text} {s : Files} (h : q = backup path → s path = none) :
    saved path s q = s q := by
  cases hold : s path with
  | none => simp only [saved, hold]
  | some c =>
    have hq : q ≠ backup path := fun hq => nomatch hold.symm.trans (h hq)
    simp only [saved, hold, Function.update_of_ne hq]

/-- A source is in its file, the old content of that file is beside it, and no other file
has changed. -/
structure Delivered (path source : Text) (before after : Files) : Prop where
  written : after path = some (.text source)
  kept : ∀ c, before path = some c → after (backup path) = some c
  elsewhere : ∀ q, q ≠ path → (q = backup path → before path = none) → after q = before q

theorem delivered_saved (path source : Text) (s : Files) :
    Delivered path source s (Function.update (saved path s) path (some (.text source))) where
  written := Function.update_self ..
  kept c hold := by rw [Function.update_of_ne (backup_ne path), saved_backup hold]
  elsewhere q hpath hbackup := by rw [Function.update_of_ne hpath, saved_of_ne hbackup]

/-- Are the writes accepted that put a source into a file and its old content beside it? -/
def Accepts (refusal : Text → Option FileError) (path : Text) (s : Files) : Prop :=
  (s path ≠ none → refusal (backup path) = none) ∧ refusal path = none

theorem deliver_of_accepts {path : Text} {s : Files} (source : Text)
    (h : Accepts refusal path s) :
    deliver (Files.access refusal) path source s =
      (.ok (), Function.update (saved path s) path (some (.text source))) := by
  obtain ⟨hbackup, hpath⟩ := h
  unfold deliver
  cases hold : s path with
  | none =>
    simp only [Files.run_bind, Files.run_ite, Files.access_present, Files.access_write,
      Files.store, saved, hold, hpath]
    rfl
  | some c =>
    have hfree := hbackup (hold ▸ Option.some_ne_none c)
    simp only [Files.run_bind, Files.run_ite, Files.access_present, Files.access_copy _ _ _ _ hold,
      Files.access_write, Files.store, saved, hold, hfree, hpath]
    rfl

/-- A delivery that is refused ends before anything is written, or once the old content is
saved. -/
theorem deliver_of_not_accepts {path : Text} {s : Files} (source : Text)
    (h : ¬ Accepts refusal path s) :
    ∃ causes, deliver (Files.access refusal) path source s = (.error causes, s) ∨
      deliver (Files.access refusal) path source s = (.error causes, saved path s) := by
  unfold deliver
  cases hold : s path with
  | none =>
    have hpath : refusal path ≠ none := fun hpath => h ⟨fun hne => absurd hold hne, hpath⟩
    obtain ⟨e, he⟩ := Option.ne_none_iff_exists'.1 hpath
    refine ⟨["failed to write generated tables to ".toList ++ path, e.message], .inl ?_⟩
    simp only [Files.run_bind, Files.run_ite, Files.access_present, Files.access_write,
      Files.store, hold, he]
    rfl
  | some c =>
    cases hbackup : refusal (backup path) with
    | some e =>
      refine ⟨["failed to backup the output file to ".toList ++ backup path, e.message], .inl ?_⟩
      simp only [Files.run_bind, Files.run_ite, Files.access_present,
        Files.access_copy _ _ _ _ hold, Files.store, hold, hbackup]
      rfl
    | none =>
      have hpath : refusal path ≠ none := fun hpath => h ⟨fun _ => hbackup, hpath⟩
      obtain ⟨e, he⟩ := Option.ne_none_iff_exists'.1 hpath
      refine ⟨["failed to write generated tables to ".toList ++ path, e.message], .inr ?_⟩
      simp only [Files.run_bind, Files.run_ite, Files.access_present,
        Files.access_copy _ _ _ _ hold, Files.access_write, Files.store, saved, hold, hbackup, he]
      rfl

/-! ### The run -/

section Runs
variable [Text.IdentifierPart]

/-- A source is generated from the text in the input file. -/
def Yields (i : Invocation) (s : Files) (source : Text) : Prop :=
  ∃ report a, s i.input = some (.text report) ∧ Automaton.compile i.strictness report = .ok a ∧
    a.emit i.target = .ok source

theorem Yields.unique {i : Invocation} {s : Files} {source other : Text}
    (h : i.Yields s source) (h' : i.Yields s other) : source = other := by
  obtain ⟨report, a, hinput, ha, hemit⟩ := h
  obtain ⟨report', a', hinput', ha', hemit'⟩ := h'
  cases hinput.symm.trans hinput'
  cases ha.symm.trans ha'
  cases hemit.symm.trans hemit'
  rfl

theorem exists_source_iff {i : Invocation} {report source : Text} :
    (∃ warnings, i.source report = .ok (source, warnings)) ↔
      ∃ a, Automaton.compile i.strictness report = .ok a ∧ a.emit i.target = .ok source := by
  unfold Invocation.source
  cases Automaton.compile i.strictness report with
  | error e => simp
  | ok a => cases hemit : a.emit i.target <;> simp [hemit]

theorem yields_iff {i : Invocation} {s : Files} {source : Text} :
    i.Yields s source ↔ ∃ report warnings, s.read i.input = .ok report ∧
      i.source report = .ok (source, warnings) := by
  simp only [Yields, Files.read_eq_ok_iff, exists_and_left, exists_source_iff]

section Ends
variable {i : Invocation} {s after : Files} {report source path : Text}
  {warnings causes : List Text}

theorem run_of_read_error {e : FileError} (h : s.read i.input = .error e) :
    i.run (Files.access refusal) s =
      (.failure [] ("errored during processing ".toList ++ i.input)
        ["IO error: ".toList ++ e.message], s) := by
  simp only [run, Files.run_bind, Files.access_read, h]
  rfl

theorem run_of_source_error (hread : s.read i.input = .ok report)
    (hsource : i.source report = .error (warnings, causes)) :
    i.run (Files.access refusal) s =
      (.failure warnings ("errored during processing ".toList ++ i.input) causes, s) := by
  simp only [run, Files.run_bind, Files.access_read, hread, hsource]
  rfl

theorem run_of_output_none (hread : s.read i.input = .ok report)
    (hsource : i.source report = .ok (source, warnings)) (houtput : i.output = none) :
    i.run (Files.access refusal) s = (⟨0, source, Text.unlines warnings⟩, s) := by
  simp only [run, Files.run_bind, Files.access_read, hread, hsource, houtput]
  rfl

theorem run_of_deliver_ok (hread : s.read i.input = .ok report)
    (hsource : i.source report = .ok (source, warnings)) (houtput : i.output = some path)
    (hdeliver : deliver (Files.access refusal) path source s = (.ok (), after)) :
    i.run (Files.access refusal) s = (⟨0, [], Text.unlines warnings⟩, after) := by
  simp only [run, Files.run_bind, Files.access_read, hread, hsource, houtput, hdeliver]
  rfl

theorem run_of_deliver_error (hread : s.read i.input = .ok report)
    (hsource : i.source report = .ok (source, warnings)) (houtput : i.output = some path)
    (hdeliver : deliver (Files.access refusal) path source s = (.error causes, after)) :
    i.run (Files.access refusal) s =
      (.failure warnings ("errored during processing ".toList ++ i.input) causes, after) := by
  simp only [run, Files.run_bind, Files.access_read, hread, hsource, houtput, hdeliver]
  rfl

end Ends

/-- Without a source a run fails and changes nothing. -/
theorem run_of_not_yields (refusal : Text → Option FileError) {i : Invocation} {s : Files}
    (h : ¬ ∃ source, i.Yields s source) :
    ∃ errors, i.run (Files.access refusal) s = (⟨1, [], errors⟩, s) := by
  cases hread : s.read i.input with
  | error e => exact ⟨_, run_of_read_error hread⟩
  | ok report =>
    cases hsource : i.source report with
    | error why => exact ⟨_, run_of_source_error hread hsource⟩
    | ok result => exact absurd ⟨_, yields_iff.2 ⟨report, result.2, hread, hsource⟩⟩ h

/-- A source for an output file: it is delivered, or the run fails and leaves the file as it
was. -/
theorem run_of_yields (refusal : Text → Option FileError) {i : Invocation} {s : Files}
    {source path : Text} (h : i.Yields s source) (houtput : i.output = some path) :
    (Accepts refusal path s ∧ ∃ errors after,
      i.run (Files.access refusal) s = (⟨0, [], errors⟩, after) ∧ Delivered path source s after) ∨
    (¬ Accepts refusal path s ∧ ∃ errors after,
      i.run (Files.access refusal) s = (⟨1, [], errors⟩, after) ∧
        ∀ q, q ≠ backup path → after q = s q) := by
  obtain ⟨report, warnings, hread, hsource⟩ := yields_iff.1 h
  by_cases haccepts : Accepts refusal path s
  · exact .inl ⟨haccepts, _, _,
      run_of_deliver_ok hread hsource houtput (deliver_of_accepts source haccepts),
      delivered_saved path source s⟩
  · refine .inr ⟨haccepts, ?_⟩
    obtain ⟨causes, hdeliver | hdeliver⟩ := deliver_of_not_accepts source haccepts
    · exact ⟨_, s, run_of_deliver_error hread hsource houtput hdeliver, fun _ _ => rfl⟩
    · exact ⟨_, _, run_of_deliver_error hread hsource houtput hdeliver,
        fun q hq => saved_of_ne fun hback => absurd hback hq⟩

/-- **Nothing is left half done.** A command that finds no report to generate a source from
fails, prints nothing and changes no file. Otherwise it prints the source and changes no
file, or it puts the source into its output file and keeps the old content of that file
beside it; where a write is refused it fails, and the output file is as it was. -/
theorem runCommand_leaves {args : List Text} {i : Invocation}
    (h : Request.parse? args = some (.run i)) (refusal : Text → Option FileError)
    (before : Files) :
    ∃ code output errors after,
      runCommand (Files.access refusal) args before = (⟨code, output, errors⟩, after) ∧
      ((¬ ∃ source, i.Yields before source) → code ≠ 0 ∧ output = [] ∧ after = before) ∧
      ∀ source, i.Yields before source →
        (i.output = none → code = 0 ∧ output = source ∧ after = before) ∧
        ∀ path, i.output = some path → output = [] ∧
          (code = 0 ↔ Accepts refusal path before) ∧
          (code = 0 → Delivered path source before after) ∧
          (code ≠ 0 → ∀ q, q ≠ backup path → after q = before q) := by
  have hrun : runCommand (Files.access refusal) args = i.run (Files.access refusal) := by
    simp only [runCommand, h]
  rw [hrun]
  by_cases hyields : ∃ source, i.Yields before source
  · obtain ⟨source, hsource⟩ := hyields
    have hall : ∀ other, i.Yields before other → other = source := fun other hother =>
      hother.unique hsource
    cases houtput : i.output with
    | none =>
      obtain ⟨report, warnings, hread, hok⟩ := yields_iff.1 hsource
      refine ⟨0, source, _, before, run_of_output_none hread hok houtput,
        fun hnone => absurd ⟨source, hsource⟩ hnone, fun other hother => ?_⟩
      exact ⟨fun _ => ⟨rfl, (hall other hother).symm, rfl⟩, fun _ hsome => nomatch hsome⟩
    | some path =>
      obtain ⟨haccepts, errors, after, hend, hdelivered⟩ | ⟨haccepts, errors, after, hend, hkept⟩ :=
        run_of_yields refusal hsource houtput
      · refine ⟨0, [], errors, after, hend, fun hnone => absurd ⟨source, hsource⟩ hnone,
          fun other hother => ⟨(nomatch ·), fun path' hpath => ?_⟩⟩
        cases hpath
        cases hall other hother
        exact ⟨rfl, iff_of_true rfl haccepts, fun _ => hdelivered, fun hne => absurd rfl hne⟩
      · refine ⟨1, [], errors, after, hend, fun hnone => absurd ⟨source, hsource⟩ hnone,
          fun other hother => ⟨(nomatch ·), fun path' hpath => ?_⟩⟩
        cases hpath
        exact ⟨rfl, iff_of_false Nat.one_ne_zero haccepts, fun hzero => absurd hzero Nat.one_ne_zero,
          fun _ => hkept⟩
  · obtain ⟨errors, hend⟩ := run_of_not_yields refusal hyields
    exact ⟨1, [], errors, before, hend, fun _ => ⟨Nat.one_ne_zero, rfl, rfl⟩,
      fun source hsource => absurd ⟨source, hsource⟩ hyields⟩

end Runs

/-- The report is the file that the old tables go to. -/
theorem runCommand_leaves_sumReport : ∃ source errors after, ∃ before : Files,
    Request.parse? ["-o".toList, "t".toList, "t.bak".toList] =
      some (.run ⟨"t.bak".toList, some "t".toList, .cpp, .strict⟩) ∧
    before "t".toList = some (.bytes [255]) ∧ before "t.bak".toList = some (.text sumReport) ∧
    runCommand (Files.access fun _ => none) ["-o".toList, "t".toList, "t.bak".toList] before =
      (⟨0, [], errors⟩, after) ∧
    after "t".toList = some (.text source) ∧ after "t.bak".toList = some (.bytes [255]) := by
  have hparse : Request.parse? ["-o".toList, "t".toList, "t.bak".toList] =
      some (.run ⟨"t.bak".toList, some "t".toList, .cpp, .strict⟩) := by decide
  obtain ⟨a, ha, hcheck⟩ := exists_ok_of_any (x := Automaton.compile .strict sumReport)
    (p := fun a => (a.emit .cpp).toOption.any fun _ => true) (by decide +kernel)
  obtain ⟨source, hemit, -⟩ := exists_ok_of_any hcheck
  let before : Files := fun path => if path = "t".toList then some (.bytes [255])
    else if path = "t.bak".toList then some (.text sumReport) else none
  obtain ⟨code, output, errors, after, hend, -, hsome⟩ :=
    runCommand_leaves hparse (fun _ => none) before
  obtain ⟨-, hpath⟩ := hsome source ⟨sumReport, a, rfl, ha, hemit⟩
  obtain ⟨houtput, hcode, hdelivered, -⟩ := hpath "t".toList rfl
  have hzero : code = 0 := hcode.2 ⟨fun _ => rfl, rfl⟩
  cases houtput
  cases hzero
  exact ⟨source, errors, after, before, hparse, rfl, rfl, hend, (hdelivered rfl).written,
    (hdelivered rfl).kept (.bytes [255]) rfl⟩

end Invocation
end ParserTables
