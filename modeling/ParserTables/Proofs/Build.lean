import ParserTables.Build
import ParserTables.Proofs.Files.Disk
import ParserTables.Proofs.Table.Accepted
import ParserTables.Text.XidContinue

/-! What a build leaves behind.

A report that is built puts one source into one file (`report_eq_ok`), and the reports of a walk are
built in their order, whatever it is and whatever else the walk comes by, be it a source that was
written just before. No source goes where a report is, since their extensions
differ, and no two sources go to one place, since the names of their reports differ before the
extension. So every report is read as it was before the build, and every source stays as it was
written (`reports_eq_ok`); that the directory of the sources may be that of the reports, or in it,
makes no difference (`process_leaves`). -/
namespace ParserTables

namespace Build
variable {b : Build} {d : Disk} {folder : Place} {stem : Text}

/-! ### Reports and their sources -/

/-- The names of a report, from the root on, by its folder and what is before its extension. -/
def reportNames (folder : Place) (stem : Text) : Place := folder ++ [stem ++ ".output".toList]

/-- The names of its source, from the directory of the sources on. -/
def sourceNames (folder : Place) (stem : Text) : Place := folder ++ [stem ++ ".rs".toList]

/-- The place of a report. -/
def reportPlace (b : Build) (d : Disk) (folder : Place) (stem : Text) : Place :=
  d.place b.root ++ reportNames folder stem

/-- The place of its source. -/
def sourcePlace (b : Build) (d : Disk) (folder : Place) (stem : Text) : Place :=
  d.place b.out ++ sourceNames folder stem

/-- A report may have these names. A name with nothing before its dot has no extension. -/
structure Named (folder : Place) (stem : Text) : Prop where
  entries : ∀ name ∈ folder, Path.IsEntry name
  ne_nil : stem ≠ []
  slash : '/' ∉ stem

/-- There is a report of these names below the root. -/
structure HasReport (b : Build) (d : Disk) (folder : Place) (stem : Text) : Prop
    extends Named folder stem where
  present : d.files (b.reportPlace d folder stem) ≠ none

/-- A source is generated from the report at a place. -/
def Yields [Text.IdentifierPart] (b : Build) (d : Disk) (report : Place) (source : Text) : Prop :=
  ∃ text a, d.files report = some (.text text) ∧ Automaton.compile b.strictness text = .ok a ∧
    a.emit .rust = .ok source

/-- Sources are in files of their own. -/
theorem sourcePlace_inj {folder' : Place} {stem' : Text}
    (h : b.sourcePlace d folder stem = b.sourcePlace d folder' stem') :
    folder = folder' ∧ stem = stem' := by
  obtain ⟨hfolder, hname⟩ := List.append_inj' (List.append_cancel_left h) rfl
  exact ⟨hfolder, List.append_cancel_right (List.singleton_inj.1 hname)⟩

/-- The last letter of the last name that leads to a place. -/
def lastLetter? (q : Place) : Option Char := q.getLast?.bind List.getLast?

theorem lastLetter?_append (place folder : Place) (stem : Text) {extension : Text} {c : Char}
    (h : extension.getLast? = some c) :
    lastLetter? (place ++ (folder ++ [stem ++ extension])) = some c := by
  rw [lastLetter?, ← List.append_assoc, List.getLast?_concat, Option.bind_some,
    List.getLast?_append, h]
  rfl

/-- No source is where a report is. -/
theorem sourcePlace_ne_reportPlace (b : Build) (d : Disk) (folder folder' : Place)
    (stem stem' : Text) : b.sourcePlace d folder stem ≠ b.reportPlace d folder' stem' := by
  intro h
  have hsource : lastLetter? (b.sourcePlace d folder stem) = some 's' := lastLetter?_append _ _ _ rfl
  have hreport : lastLetter? (b.reportPlace d folder' stem') = some 't' :=
    lastLetter?_append _ _ _ rfl
  exact absurd ((h ▸ hsource).symm.trans hreport) (by decide)

/-! ### Paths of reports -/

/-- The path of a report as seen from the root. -/
def reportPath (folder : Place) (stem : Text) : Text := Text.join ['/'] (reportNames folder stem)

/-- A name with an extension is a name. -/
theorem Named.isEntry (h : Named folder stem) {e : Text} (hne : e ≠ []) (hfree : '/' ∉ e) :
    Path.IsEntry (stem ++ '.' :: e) := by
  obtain ⟨c, stem, rfl⟩ := List.exists_cons_of_ne_nil h.ne_nil
  obtain ⟨c', e, rfl⟩ := List.exists_cons_of_ne_nil hne
  refine ⟨nofun, by simp, ?_, ?_⟩
  · intro heq
    have hlength := congrArg List.length heq
    simp only [List.length_append, List.length_cons, List.length_nil] at hlength
    omega
  · have hslash := h.slash
    simp_all

theorem Named.reportName (h : Named folder stem) : Path.IsEntry (stem ++ ".output".toList) :=
  h.isEntry nofun (by decide)

theorem Named.sourceName (h : Named folder stem) : Path.IsEntry (stem ++ ".rs".toList) :=
  h.isEntry nofun (by decide)

theorem Named.report_entries (h : Named folder stem) :
    ∀ name ∈ reportNames folder stem, Path.IsEntry name :=
  List.forall_mem_append.2 ⟨h.entries, List.forall_mem_singleton.2 h.reportName⟩

theorem Named.source_entries (h : Named folder stem) :
    ∀ name ∈ sourceNames folder stem, Path.IsEntry name :=
  List.forall_mem_append.2 ⟨h.entries, List.forall_mem_singleton.2 h.sourceName⟩

theorem inputPath_join {names : Place} (hne : names ≠ []) (h : ∀ name ∈ names, Path.IsEntry name)
    (b : Build) : b.inputPath (Text.join ['/'] names) = Path.join b.root (Text.join ['/'] names) := by
  have hpath : (Text.join ['/'] names).isEmpty = false :=
    List.isEmpty_eq_false_iff.2 (Path.join_ne_nil hne h)
  rw [inputPath, hpath]
  rfl

theorem Named.place_inputPath (h : Named folder stem) (b : Build) (d : Disk) :
    d.place (b.inputPath (reportPath folder stem)) = b.reportPlace d folder stem := by
  have hne : reportNames folder stem ≠ [] := by simp [reportNames]
  rw [reportPath, inputPath_join hne h.report_entries]
  exact Path.locate_join hne h.report_entries d.home b.root

theorem Named.place_outputPath (h : Named folder stem) (b : Build) (d : Disk) :
    d.place (b.outputPath (reportPath folder stem)) = b.sourcePlace d folder stem := by
  have hne : sourceNames folder stem ≠ [] := by simp [sourceNames]
  have hpath : b.outputPath (reportPath folder stem) =
      Path.join b.out (Text.join ['/'] (sourceNames folder stem)) :=
    Path.withExtension_join h.entries h.ne_nil (by decide) h.reportName h.sourceName b.out
  rw [hpath]
  exact Path.locate_join hne h.source_entries d.home b.out

/-- **The reports of a walk** are the files whose names end in the extension of reports. -/
theorem mem_reports_iff {paths : List Text} (h : d.Visits b.root b.isReport paths) (path : Text) :
    path ∈ paths.filter b.isReport ↔
      ∃ folder stem, b.HasReport d folder stem ∧ path = reportPath folder stem := by
  rw [List.mem_filter, and_congr_left (h.mem_iff path)]
  constructor
  · rintro ⟨⟨names, hne, hentries, rfl, hpresent⟩, hreport⟩
    obtain ⟨folder, name, rfl⟩ := (List.eq_nil_or_concat' names).resolve_left hne
    obtain ⟨hfolder, hname⟩ := List.forall_mem_append.1 hentries
    rw [isReport, inputPath_join hne hentries] at hreport
    have hextension := (Path.extension?_join hfolder (List.forall_mem_singleton.1 hname) b.root).symm
      |>.trans (of_decide_eq_true hreport)
    obtain ⟨stem, hstem, -, rfl⟩ := Path.exists_stem hextension
    have hslash := (List.forall_mem_singleton.1 hname).2.2.2
    exact ⟨folder, stem, ⟨⟨hfolder, hstem, fun hmem => hslash (List.mem_append_left _ hmem)⟩,
      hpresent⟩, rfl⟩
  · rintro ⟨folder, stem, hreport, rfl⟩
    have hne : reportNames folder stem ≠ [] := by simp [reportNames]
    have hentries := hreport.report_entries
    refine ⟨⟨_, hne, hentries, rfl, hreport.present⟩, ?_⟩
    rw [isReport, reportPath, inputPath_join hne hentries]
    have hextension := Path.extension?_join hreport.entries hreport.reportName b.root
    have hsplit : Path.splitExtension (stem ++ ".output".toList) = (stem, some reportExtension) :=
      Path.splitExtension_append hreport.ne_nil (by decide)
    rw [hsplit] at hextension
    exact decide_eq_true hextension

/-! ### The build -/

/-- What follows a step ends where both together do. -/
theorem exists_of_bind {σ α β : Type} {x : StateM σ α} {f : α → StateM σ β} {s s' : σ} {y : β}
    (h : (x >>= f) s = (y, s')) : ∃ r s₁, x s = (r, s₁) ∧ f r s₁ = (y, s') :=
  ⟨_, _, rfl, h⟩

section Walks
variable [Text.IdentifierPart] {σ : Type} {fs : DirectoryAccess (StateM σ)} {paths : List Text}
  {s s' : σ}

/-- A walk that gets through leaves it to the reports how the build ends. -/
theorem process_of_below (h : fs.below b.root s = (⟨paths, none⟩, s')) :
    b.process fs s = b.reports fs (paths.filter b.isReport) s' := by
  simp only [process, bind, StateT.bind, h]
  rcases b.reports fs (paths.filter b.isReport) s' with ⟨built, s''⟩
  dsimp only
  cases built.failure <;> rfl

/-- A walk that does not get through is the end of the build. -/
theorem process_failure {cause : Text × FileError}
    (h : fs.below b.root s = (⟨paths, some cause⟩, s')) : (b.process fs s).1.failure ≠ none := by
  simp only [process, bind, StateT.bind, h]
  rcases b.reports fs (paths.filter b.isReport) s' with ⟨built, s''⟩
  dsimp only
  cases hbuilt : built.failure with
  | none => exact nofun
  | some causes => exact fun hnone => nomatch hbuilt.symm.trans hnone

end Walks

section Runs
variable [Text.IdentifierPart] {σ : Type} {fs : DirectoryAccess (StateM σ)} {disk : σ → Disk}
  (hfs : fs.ActsOn disk) {s s' : σ} {outcome : BuildOutcome}
include hfs

/-- **A report that is built** puts one source into one file. -/
theorem report_eq_ok {path : Text} (h : b.report fs path s = (outcome, s'))
    (hok : outcome.failure = none) :
    ∃ source, b.Yields (disk s) ((disk s).place (b.inputPath path)) source ∧
      disk s' = (disk s).put (b.outputPath path) (.text source) := by
  unfold report at h
  dsimp only at h
  rcases hparent : Path.parent? (b.outputPath path) with _ | directory
  all_goals rw [hparent] at h
  -- the directory of the source is made first, which changes no file
  case' some =>
    obtain ⟨e | ⟨⟩, s₁, hmade, h⟩ := exists_of_bind h
    · exact absurd hok ((Prod.mk.inj h).1 ▸ nofun)
    rw [← hfs.makeDirectories hmade]
  all_goals
    obtain ⟨e | text, s₂, hread, h⟩ := exists_of_bind h
    · exact absurd hok ((Prod.mk.inj h).1 ▸ nofun)
    obtain ⟨htext, hread⟩ := hfs.read hread
    rw [← hread] at htext ⊢
    cases hcompile : Automaton.compile b.strictness text with
    | error e =>
      simp only [hcompile] at h
      exact absurd hok ((Prod.mk.inj h).1 ▸ nofun)
    | ok a =>
      simp only [hcompile] at h
      cases hemit : a.emit .rust with
      | error e =>
        simp only [hemit] at h
        exact absurd hok ((Prod.mk.inj h).1 ▸ nofun)
      | ok source =>
        simp only [hemit] at h
        obtain ⟨e | ⟨⟩, s₃, hwrite, h⟩ := exists_of_bind h
        · exact absurd hok ((Prod.mk.inj h).1 ▸ nofun)
        obtain rfl := (Prod.mk.inj h).2
        exact ⟨source, ⟨text, a, htext, hcompile, hemit⟩, hfs.write hwrite⟩

/-- **Reports that are built**, one after the other, leave a source for each of them and every other
file as it was, if no source goes where a report is and no two go to one place. -/
theorem reports_eq_ok {paths : List Text} (h : b.reports fs paths s = (outcome, s'))
    (hok : outcome.failure = none)
    (hapart : ∀ path ∈ paths, ∀ other ∈ paths,
      (disk s).place (b.outputPath path) ≠ (disk s).place (b.inputPath other))
    (hdistinct : paths.Pairwise fun path other =>
      (disk s).place (b.outputPath path) ≠ (disk s).place (b.outputPath other)) :
    (∀ path ∈ paths, ∃ source, b.Yields (disk s) ((disk s).place (b.inputPath path)) source ∧
      (disk s').files ((disk s).place (b.outputPath path)) = some (.text source)) ∧
    ∀ q, (∀ path ∈ paths, q ≠ (disk s).place (b.outputPath path)) →
      (disk s').files q = (disk s).files q := by
  induction paths generalizing s outcome with
  | nil =>
    obtain rfl := (Prod.mk.inj h).2
    exact ⟨nofun, fun _ _ => rfl⟩
  | cons path rest ih =>
    rw [reports] at h
    obtain ⟨first, s₁, hfirst, h⟩ := exists_of_bind h
    cases hfailure : first.failure with
    | some causes =>
      simp only [hfailure] at h
      obtain rfl := (Prod.mk.inj h).1
      exact absurd hok (hfailure ▸ nofun)
    | none =>
      simp only [hfailure] at h
      obtain ⟨others, s₂, hothers, h⟩ := exists_of_bind h
      obtain ⟨rfl, rfl⟩ := Prod.mk.inj h
      obtain ⟨source, hyields, hput⟩ := report_eq_ok hfs hfirst hfailure
      -- the first source changes neither a place nor a report that is still to be read
      have hplace : ∀ p, (disk s₁).place p = (disk s).place p := fun p => by rw [hput]; rfl
      have hkept : ∀ q, q ≠ (disk s).place (b.outputPath path) →
          (disk s₁).files q = (disk s).files q := fun q hq => by
        rw [hput, Disk.files_put_of_ne hq]
      obtain ⟨hhead, htail⟩ := List.pairwise_cons.1 hdistinct
      obtain ⟨hsources, helsewhere⟩ := ih hothers hok
        (fun p hp q hq => by
          rw [hplace, hplace]
          exact hapart p (List.mem_cons_of_mem _ hp) q (List.mem_cons_of_mem _ hq))
        (by simpa only [hplace] using htail)
      simp only [hplace] at hsources helsewhere
      refine ⟨fun p hp => ?_, fun q hq => ?_⟩
      · rcases List.mem_cons.1 hp with rfl | hp
        · refine ⟨source, hyields, ?_⟩
          rw [helsewhere _ hhead, hput, Disk.files_put_self]
        · obtain ⟨other, ⟨text, a, htext, hcompile, hemit⟩, hwritten⟩ := hsources p hp
          have hreport := hapart path List.mem_cons_self p (List.mem_cons_of_mem _ hp)
          rw [hkept _ hreport.symm] at htext
          exact ⟨other, ⟨text, a, htext, hcompile, hemit⟩, hwritten⟩
      · rw [helsewhere q fun p hp => hq p (List.mem_cons_of_mem _ hp),
          hkept q (hq path List.mem_cons_self)]

/-- **A build that succeeds** puts the source of every report below the root in its place below the
directory of the sources, with another extension. No two reports have their sources in one file, and
every file that is none of these is as it was. -/
theorem process_leaves (h : b.process fs s = (outcome, s')) (hok : outcome.failure = none)
    (hwalk : ∀ paths s₁, fs.below b.root s = (⟨paths, none⟩, s₁) →
      (disk s).Visits b.root b.isReport paths) :
    (∀ folder stem, b.HasReport (disk s) folder stem →
      ∃ source, b.Yields (disk s) (b.reportPlace (disk s) folder stem) source ∧
        (disk s').files (b.sourcePlace (disk s) folder stem) = some (.text source)) ∧
    (∀ folder stem folder' stem', b.HasReport (disk s) folder stem →
      b.HasReport (disk s) folder' stem' →
      b.sourcePlace (disk s) folder stem = b.sourcePlace (disk s) folder' stem' →
      b.reportPlace (disk s) folder stem = b.reportPlace (disk s) folder' stem') ∧
    ∀ q, (∀ folder stem, b.HasReport (disk s) folder stem →
        q ≠ b.sourcePlace (disk s) folder stem) →
      (disk s').files q = (disk s).files q := by
  obtain ⟨⟨paths, _ | cause⟩, s₁, hbelow, -⟩ := exists_of_bind h
  swap
  · exact absurd (h ▸ hok) (process_failure hbelow)
  rw [process_of_below hbelow] at h
  have hmem := fun path => mem_reports_iff (b := b) (hwalk paths s₁ hbelow) path
  have hsame := hfs.below hbelow
  have hnodup := (hwalk paths s₁ hbelow).once
  rw [← hsame] at hmem ⊢
  generalize paths.filter b.isReport = reports at h hmem hnodup
  have hapart : ∀ path ∈ reports, ∀ other ∈ reports,
      (disk s₁).place (b.outputPath path) ≠ (disk s₁).place (b.inputPath other) := by
    intro path hpath other hother
    obtain ⟨folder, stem, hreport, rfl⟩ := (hmem path).1 hpath
    obtain ⟨folder', stem', hreport', rfl⟩ := (hmem other).1 hother
    rw [hreport.place_outputPath, hreport'.place_inputPath]
    exact sourcePlace_ne_reportPlace b _ _ _ _ _
  have hdistinct : reports.Pairwise fun path other =>
      (disk s₁).place (b.outputPath path) ≠ (disk s₁).place (b.outputPath other) := by
    refine hnodup.imp_of_mem fun hpath hother hne heq => ?_
    obtain ⟨folder, stem, hreport, rfl⟩ := (hmem _).1 hpath
    obtain ⟨folder', stem', hreport', rfl⟩ := (hmem _).1 hother
    rw [hreport.place_outputPath, hreport'.place_outputPath] at heq
    obtain ⟨rfl, rfl⟩ := sourcePlace_inj heq
    exact hne rfl
  obtain ⟨hsources, helsewhere⟩ := reports_eq_ok hfs h hok hapart hdistinct
  refine ⟨fun folder stem hreport => ?_, fun folder stem folder' stem' _ _ heq => ?_,
    fun q hq => helsewhere q fun path hpath => ?_⟩
  · have hbuilt := hsources _ ((hmem _).2 ⟨folder, stem, hreport, rfl⟩)
    rwa [hreport.place_inputPath, hreport.place_outputPath] at hbuilt
  · obtain ⟨rfl, rfl⟩ := sourcePlace_inj heq
    rfl
  · obtain ⟨folder, stem, hreport, rfl⟩ := (hmem path).1 hpath
    rw [hreport.place_outputPath]
    exact hq folder stem hreport

end Runs

/-- Two reports, one of them in a hidden directory and with a further dot in its name, a file with no
extension at all, and old tables where the new ones go. -/
def siteTree : Tree where
  files := [(["work".toList, ".gen".toList, "loop.v2.output".toList], .text loopReport),
    (["work".toList, ".output".toList], .bytes [255]),
    (["work".toList, "main.output".toList], .text loopReport),
    (["work".toList, "main.rs".toList], .bytes [255])]
  directories := []
  home := ["work".toList]

/-- The sources go where the reports are. -/
def siteBuild : Build := { root := ".".toList, out := "../work/".toList, strictness := .strict }

/-- The names of the files below the root. -/
def siteNames : List Place :=
  [[".gen".toList, "loop.v2.output".toList], [".output".toList], ["main.output".toList],
    ["main.rs".toList]]

/-- A walk finds both reports. -/
theorem process_siteTree : siteBuild.process Tree.access siteTree =
    siteBuild.reports Tree.access [".gen/loop.v2.output".toList, "main.output".toList] siteTree := by
  -- the places of the files are in order already
  have hsorted : siteNames.Pairwise fun p q => Place.notAfter p q = true := by decide
  have hbelow : siteTree.below siteBuild.root =
      .ok ((siteNames.mergeSort Place.notAfter).map (Text.join ['/'])) := rfl
  have hwalk : Tree.access.below siteBuild.root siteTree =
      (⟨siteNames.map (Text.join ['/']), none⟩, siteTree) := by
    show (siteTree.walk siteBuild.root, siteTree) = _
    rw [Tree.walk, hbelow, List.mergeSort_of_pairwise hsorted]
  exact process_of_below hwalk

/-- Each gets its source, the old tables are gone, and the file with no extension is as it was. -/
theorem process_leaves_siteTree : ∃ outcome after,
    siteBuild.process Tree.access siteTree = (outcome, after) ∧ outcome.failure = none ∧
    siteBuild.HasReport siteTree.disk [".gen".toList] "loop.v2".toList ∧
    (∃ source, siteBuild.Yields siteTree.disk
        ["work".toList, ".gen".toList, "loop.v2.output".toList] source ∧
      after.file? ["work".toList, ".gen".toList, "loop.v2.rs".toList] = some (.text source)) ∧
    (∃ source, siteBuild.Yields siteTree.disk ["work".toList, "main.output".toList] source ∧
      after.file? ["work".toList, "main.rs".toList] = some (.text source)) ∧
    after.file? ["work".toList, ".output".toList] = some (.bytes [255]) := by
  have hwell : siteTree.WellFormed := ⟨by decide, by decide⟩
  have hwalk : ∀ paths t, Tree.access.below siteBuild.root siteTree = (⟨paths, none⟩, t) →
      siteTree.disk.Visits siteBuild.root siteBuild.isReport paths :=
    fun paths t h => hwell.visits (by decide) (Prod.mk.inj h).1 _
  have hloop : siteBuild.HasReport siteTree.disk [".gen".toList] "loop.v2".toList :=
    ⟨⟨by decide, by decide, by decide⟩, by decide⟩
  have hmain : siteBuild.HasReport siteTree.disk [] "main".toList :=
    ⟨⟨by decide, by decide, by decide⟩, by decide⟩
  have hok : (siteBuild.process Tree.access siteTree).1.failure = none := by
    rw [process_siteTree]
    decide +kernel
  obtain ⟨⟨outcome, after⟩, hrun⟩ : ∃ result, siteBuild.process Tree.access siteTree = result :=
    ⟨_, rfl⟩
  rw [hrun] at hok
  obtain ⟨hsources, -, helsewhere⟩ := process_leaves Tree.actsOn hrun hok hwalk
  refine ⟨outcome, after, hrun, hok, hloop, hsources _ _ hloop, hsources _ _ hmain, ?_⟩
  refine (helsewhere _ fun folder stem _ heq => ?_).trans rfl
  have hletter := congrArg lastLetter? heq
  rw [sourcePlace, sourceNames, lastLetter?_append _ _ _ rfl] at hletter
  exact absurd hletter (by decide)

end Build
end ParserTables
