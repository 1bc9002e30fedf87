import SuiteRunner.Proofs.CreatedDirectories
import SuiteRunner.Proofs.PoolResults
import SuiteRunner.Proofs.RunRecords
import SuiteRunner.Proofs.SearchAgain
import SuiteRunner.Proofs.ShownListings

/-!
# What a listing says of a run

A listing shows the cases that a run with the same selection would have results for, and why some of
them would be skipped.  The run has more options, creates its output directory before it searches
for suites, and lets its cases end in any order.

* `Site.Finds`, the record of the installation that a command finds, with
  `Site.Finds.eq_of_grown`;
* `Course.gives_results` — a course that is not cut short has a result for every case, in order;
* `skipReason?_applyTo` — the options of a run do not change which cases are skipped;
* **`list_predicts_run`** — cases are listed as the run has results for them.
-/

namespace SuiteRunner

/-! ### Cases in their order -/

/-- Lists that go with the same list go with each other. -/
theorem forall₂_of_common {α β γ : Type} {R : α → β → Prop} {S : α → γ → Prop} {T : β → γ → Prop}
    {as : List α} {bs : List β} {cs : List γ} (both : ∀ a b c, R a b → S a c → T b c)
    (h : List.Forall₂ R as bs) (h' : List.Forall₂ S as cs) : List.Forall₂ T bs cs := by
  induction h generalizing cs with
  | nil =>
    cases h'
    exact .nil
  | cons hab _ ih =>
    cases h' with
    | cons hac hrest => exact .cons (both _ _ _ hab hac) (ih hrest)

/-- The cases of suites in their order, each with its suite. -/
def casesOf (suites : List Suite) : List (Suite × TestCase) :=
  suites.flatMap fun s => s.cases.map fun case => (s, case)

/-- The slots of suites are those of their cases, in the same order. -/
theorem forall₂_slotsOf (c : Course) :
    List.Forall₂ (fun slot case => c.case? slot = some case) (slotsOf c.suites)
      (casesOf c.suites) := by
  have general : ∀ before rest : List Suite, c.suites = before ++ rest →
      List.Forall₂ (fun slot case => c.case? slot = some case)
        ((rest.zipIdx before.length).flatMap fun p =>
          (List.range p.1.cases.length).map fun n => ⟨p.2, n⟩) (casesOf rest) := by
    intro before rest
    induction rest generalizing before with
    | nil => exact fun _ => .nil
    | cons s rest ih =>
      intro hsuites
      have hrest := ih (before ++ [s]) (by rw [hsuites]; simp)
      rw [List.length_append, List.length_singleton] at hrest
      rw [List.zipIdx_cons, List.flatMap_cons, casesOf, List.flatMap_cons, ← casesOf]
      refine List.rel_append ?_ hrest
      refine List.forall₂_iff_get.2 ⟨by simp, fun n hn hn' => ?_⟩
      have hsuite : c.suites[before.length]? = some s := by
        rw [hsuites]
        simp
      have hcase : n < s.cases.length := by simpa using hn
      simp [Course.case?, hsuite, hcase]
  exact general [] c.suites rfl

namespace Course

variable {c : Course} {s : State} {history : List PoolEvent}

/-- **A course that is not cut short has a result for every case, in their order.** -/
theorem gives_results (h : c.Follows s history) (done : s.pool.ended = some .completed)
    (steady : c.runner.config.failFast = false) :
    List.Forall₂ c.Gives (slotsOf c.suites)
      ((State.summary c s).suites.flatMap SuiteSummary.results) := by
  have sound := Pool.sound_of_run h.run
  have hlaunched := sound.launchedIn_eq steady done
  -- The outcome of a case is the result that was handed in for it.
  let outcome : Slot → CaseResult := fun slot =>
    ((handedIn history).lookup slot).getD (.plain "" "" "" .skip)
  have obeys : Obeys outcome history := by
    intro slot result hmem
    show result = ((handedIn history).lookup slot).getD _
    rw [sound.flow.lookup_of_mem (mem_handedIn.2 hmem), Option.getD_some]
  have hresults := (sound.hasAll steady obeys done (c.clock s.turns)).2
  rw [State.summary, hresults, List.forall₂_map_right_iff, List.forall₂_same]
  intro slot hslot
  have hhanded : slot ∈ (handedIn history).map Prod.fst := by
    rw [(sound.handedIn_perm_launchedIn done).mem_iff, hlaunched]
    exact hslot
  obtain ⟨⟨slot', result⟩, hmem, rfl⟩ := List.mem_map.1 hhanded
  have hgives := h.gives _ hmem
  rwa [obeys _ _ (mem_handedIn.1 hmem)] at hgives

end Course

/-! ### Skipped cases -/

/-- The options of a run do not change which cases are skipped. -/
theorem skipReason?_applyTo (r : RunRequest) (base : Config) (install : Option SimulatorConf)
    (s : Suite) (case : TestCase) :
    skipReason? (r.applyTo base) install s case =
      skipReason? (r.selection.applyTo base) install s case := rfl

/-- A listed case stands for a result: it has the same names, and it is skipped for a reason exactly
if the result says that it was skipped for this reason. -/
structure Predicts (l : Listing) (x : CaseResult) : Prop where
  suite : l.suite = x.suite
  name : l.name = x.name
  skip_iff : ∀ reason, l.skip = some reason ↔ x.status = .skip ∧ x.message = some reason

/-- How a case is listed. -/
def listingOf (c : Config) (install : Option SimulatorConf) (s : Suite) (case : TestCase) :
    Listing :=
  ⟨s.name, s.testType, case.name, case.model, (skipReason? c install s case).map SkipReason.message⟩

theorem listingsOf_eq (c : Config) (install : Option SimulatorConf) (suites : List Suite) :
    Work.listingsOf c install suites =
      (casesOf suites).map fun (s, case) => listingOf c install s case := by
  rw [casesOf, List.map_flatMap]
  simp only [List.map_map]
  rfl

theorem Verdict.status_ne_skip (v : Verdict) : v.status ≠ .skip := by
  cases v <;> simp [Verdict.status]

/-- **A case is listed as it is run**, however long that takes. -/
theorem predicts_run (r : Runner) (machine : Machine) (files : FileTree) (s : Suite)
    (case : TestCase) (elapsedMs : Nat) :
    Predicts (listingOf r.config r.install s case) (r.run machine files s case elapsedMs).1 := by
  cases hskip : skipReason? r.config r.install s case with
  | some reason =>
    rw [Runner.run_of_skipped hskip, listingOf, hskip]
    refine ⟨rfl, rfl, fun m => ?_⟩
    rw [Option.map_some]
    exact ⟨fun h => ⟨rfl, h⟩, fun h => h.2⟩
  | none =>
    rw [Runner.run_of_unskipped hskip, listingOf, hskip]
    have hnever : ∀ (status : Status) (message : Option String) (m : String), status ≠ .skip →
        ((none : Option String) = some m ↔ status = .skip ∧ message = some m) :=
      fun _ _ _ hstatus => iff_of_false (by simp) fun h => hstatus h.1
    dsimp only
    rw [Runner.execute]
    split
    · exact ⟨rfl, rfl, fun m => hnever .error _ m (by decide)⟩
    · dsimp only
      split
      · exact ⟨rfl, rfl, fun m => hnever .error _ m (by decide)⟩
      · exact ⟨rfl, rfl, fun m => hnever _ _ m (Verdict.status_ne_skip _)⟩

/-! ### The record of the installation -/

theorem FileTree.exists?_of_readBytes {t : FileTree} {path : String} {content : Bytes}
    (h : t.readBytes path = .ok content) : t.exists? path = true := by
  obtain ⟨l, hlocate, hentry⟩ := FileTree.readBytes_eq_ok.1 h
  rw [FileTree.exists?, FileTree.find_eq_ok.2 ⟨hlocate, hentry⟩]

theorem FileTree.Grown.exists? {t t' : FileTree} {path : String} (grown : t.Grown t')
    (h : t.exists? path = true) : t'.exists? path = true := by
  rw [FileTree.exists?] at h
  split at h
  · rw [FileTree.exists?, grown.find ‹_›]
  · cases h

namespace SimulatorConf

variable {t t' : FileTree} {env : Environment} {given : Option String}

theorem exists_readBytes_of_load {path : String} {conf : SimulatorConf}
    (h : load t path = .ok conf) : ∃ content, t.readBytes path = .ok content := by
  rw [load] at h
  split at h
  · cases h
  · rename_i htext
    rw [FileTree.readText, bind_eq_ok] at htext
    obtain ⟨content, hread, -⟩ := htext
    exact ⟨content, hread⟩

/-- The record is at the same path before and after directories were created, if something was
there before. -/
theorem locate?_of_grown (grown : t.Grown t')
    (there : ∀ path, locate? t' env given = some path → t.exists? path = true) :
    locate? t env given = locate? t' env given := by
  cases given with
  | some path => rfl
  | none =>
    -- A path that is there afterwards, and that is taken then, was there before.
    have keeps : ∀ q : Option String, (∀ path, q.filter t'.exists? = some path →
        t.exists? path = true) → q.filter t.exists? = q.filter t'.exists? := by
      intro q hq
      cases q with
      | none => rfl
      | some path =>
        cases hpath : t'.exists? path with
        | true => simp [Option.filter, hpath, hq path (by simp [Option.filter, hpath])]
        | false =>
          have hnone : t.exists? path = false := by
            rw [← Bool.not_eq_true]
            intro h
            rw [grown.exists? h] at hpath
            cases hpath
          simp [Option.filter, hpath, hnone]
    unfold locate? at there ⊢
    dsimp only at there ⊢
    generalize env.get? "SST_CONFIG_FILE" = named at there ⊢
    rw [keeps named fun path hpath => there path (by rw [hpath]; rfl)]
    cases hnamed : named.filter t'.exists? with
    | some path => rfl
    | none =>
      rw [hnamed] at there
      exact keeps _ there

end SimulatorConf

/-- The record of the installation that a command finds, at the path that is given or else where it
is looked for. -/
def Site.Finds (site : Site) (files : FileTree) (given : Option String)
    (install : Option SimulatorConf) : Prop :=
  match SimulatorConf.locate? files site.environment given with
  | none => install = none
  | some path => ∃ conf, SimulatorConf.load files path = .ok conf ∧ install = some conf

namespace Site.Finds

variable {site : Site} {files files' : FileTree} {given : Option String}
  {install install' : Option SimulatorConf}

theorem unique (h : site.Finds files given install) (h' : site.Finds files given install') :
    install = install' := by
  unfold Finds at h h'
  cases hpath : SimulatorConf.locate? files site.environment given with
  | none =>
    rw [hpath] at h h'
    exact h.trans h'.symm
  | some path =>
    rw [hpath] at h h'
    obtain ⟨conf, hconf, rfl⟩ := h
    obtain ⟨conf', hconf', rfl⟩ := h'
    cases hconf.symm.trans hconf'
    rfl

/-- The record is the same before and after directories were created, if the path of it does not
lead up. -/
theorem eq_of_grown (grown : files.Grown files') (regular : files.IsRegular)
    (noUp : ∀ path, SimulatorConf.locate? files' site.environment given = some path →
      Path.up ∉ Path.pieces path)
    (h : site.Finds files given install) (h' : site.Finds files' given install') :
    install = install' := by
  have hreads : ∀ path, SimulatorConf.locate? files' site.environment given = some path →
      ∃ content, files.readBytes path = .ok content := by
    intro path hpath
    unfold Finds at h'
    rw [hpath] at h'
    obtain ⟨conf, hconf, -⟩ := h'
    obtain ⟨content, hread⟩ := SimulatorConf.exists_readBytes_of_load hconf
    exact ⟨content, (grown.readsAs regular (noUp path hpath) content).1 hread⟩
  have hlocate := SimulatorConf.locate?_of_grown grown fun path hpath =>
    FileTree.exists?_of_readBytes (hreads path hpath).choose_spec
  refine h.unique ?_
  unfold Finds at h' ⊢
  rw [hlocate]
  cases hpath : SimulatorConf.locate? files' site.environment given with
  | none =>
    rw [hpath] at h'
    exact h'
  | some path =>
    rw [hpath] at h'
    obtain ⟨content, hread⟩ := hreads path hpath
    obtain ⟨conf, hconf, rfl⟩ := h'
    refine ⟨conf, ?_, rfl⟩
    rwa [SimulatorConf.load, FileTree.readText, hread, ← grown.readBytes hread,
      ← FileTree.readText, ← SimulatorConf.load]

end Site.Finds

/-! ### Lists -/

namespace Work

variable {site : Site} {g : Globals} {l : ListRequest} {d d' : Desk} {status : ExitStatus}

/-- **When a list succeeds**: it prints the listing of what it finds, and changes no files. -/
theorem listCases_eq_ok (h : listCases site g l d = .ok status d') :
    ∃ base format suites install,
      Config.resolve d.files site.environment g.settingsFile g.profile = .ok base ∧
      OutputFormat.ofName? l.format = some format ∧
      discover d.files ⟨(l.selection.applyTo base).searchPaths, (l.selection.applyTo base).testType,
        (l.selection.applyTo base).pattern⟩
        (if l.selection.suiteFiles.isEmpty then none else some l.selection.suiteFiles) =
          .ok suites ∧
      site.Finds d.files (l.selection.applyTo base).installFile install ∧
      d'.printed = d.printed ++ ((site.formatter format).listing
        (listingsOf (l.selection.applyTo base) install suites) ++ "\n") := by
  simp only [listCases, bind_eq_ok, baseConfig_eq_ok, formatNamed_eq_ok, suitesOf_eq_ok,
    installOf_eq_ok, putLine_eq_ok] at h
  obtain ⟨base, _, ⟨hbase, rfl⟩, format, _, ⟨hformat, rfl⟩, suites, _, ⟨hsuites, rfl⟩, install, _,
    ⟨hinstall, rfl⟩, _, _, rfl, hend⟩ := h
  obtain ⟨-, rfl⟩ := pure_eq_ok.1 hend
  exact ⟨base, format, suites, install, hbase, hformat, hsuites, hinstall, rfl⟩

end Work

/-- **A list predicts a run.**  When cases are listed and are run with the same selection, on the
same files, with the same base configuration and the same record of the installation, and the run is
neither refused nor interrupted and does not stop after a failure, then what is printed shows the
cases of the suites of the run, in the order of the results in its summary.  A case is listed with a
reason exactly if the run has skipped it for this reason. -/
theorem list_predicts_run {site : Site} {files : FileTree} {g g' : Globals} {l : ListRequest}
    {r : RunRequest} {base : Config} {registry : Option SimulatorConf} {listed ran : Reply}
    (tree : files.IsTree)
    (resolved : Config.resolve files site.environment g.settingsFile g.profile = .ok base)
    (resolved' : Config.resolve files site.environment g'.settingsFile g'.profile = .ok base)
    (selection : r.selection = l.selection)
    (lists : carryOut site files ⟨g, .list l⟩ = listed) (listedAll : listed.fault = none)
    (runs : carryOut site files ⟨g', .run r⟩ = ran) (ranAll : ran.fault = none)
    (found : site.Finds files (l.selection.applyTo base).installFile registry)
    (found' : ∀ p : RunPlan site g' r files, site.Finds p.made p.config.installFile registry)
    (quiet : ran.status ≠ .interruption) (steady : (r.applyTo base).failFast = false) :
    ∃ (p : RunPlan site g' r files) (format : OutputFormat) (text : String),
      p.Closed ran ∧ OutputFormat.ofName? l.format = some format ∧ listed.printed = text ++ "\n" ∧
      text = (site.formatter format).listing
        (Work.listingsOf (l.selection.applyTo base) registry p.suites) ∧
      (site.formatter format).Shows (l.selection.applyTo base) registry p.suites text ∧
      List.Forall₂ Predicts (Work.listingsOf (l.selection.applyTo base) registry p.suites)
        p.results := by
  obtain ⟨d, hlist, -, hprinted⟩ := carryOut_eq lists listedAll
  obtain ⟨base', format, suites, install, hbase, hformat, hsuites, hinstall, hlisting⟩ :=
    Work.listCases_eq_ok hlist
  cases resolved.symm.trans hbase
  obtain rfl := found.unique hinstall
  obtain ⟨p, closed⟩ := RunPlan.exists_closed runs ranAll
  obtain hbase' : p.base = base := Except.ok.inj (p.resolved.symm.trans resolved')
  have hinstall' : registry = p.install := (found' p).unique p.installed
  have tree' : p.made.IsTree := by
    obtain ⟨first, hfirst, hmade⟩ := p.created
    exact (tree.createDirectories hfirst).createDirectories hmade
  have hsuites' : p.suites = suites := by
    refine discover_of_grown p.grown_made tree tree' hsuites ?_
    rw [← selection]
    have hselected := p.selected
    rw [hbase'] at hselected
    exact hselected
  obtain ⟨history, follows⟩ := p.exists_follows
  have hended : p.last.pool.ended = some .completed := by
    obtain ⟨ending, hending⟩ := Option.isSome_iff_exists.1 (Course.run_ended p.course p.made)
    cases ending with
    | completed => exact hending
    | interrupted =>
      have hlast : p.last.isInterrupted = true := decide_eq_true hending
      rw [closed.status, if_pos hlast] at quiet
      exact absurd rfl quiet
  have hconfig : p.config = r.applyTo base := by rw [RunPlan.config, hbase']
  have hgiven := p.course.gives_results follows hended (by rwa [← hconfig] at steady)
  obtain ⟨hnames, hcases⟩ := pairwise_and_cases_of_discover hsuites
  have hdifferent : (suites.map Suite.name).Nodup :=
    List.pairwise_map.2 (hnames.imp fun hlt => String.ne_of_lt hlt)
  have shows := (site.formatter format).shows_listing (l.selection.applyTo base) registry
    hdifferent hcases
  rw [← hsuites'] at hlisting shows
  refine ⟨p, format, _, closed, hformat, by rw [hprinted, hlisting, String.empty_append], rfl, shows,
    ?_⟩
  rw [listingsOf_eq, List.forall₂_map_left_iff]
  refine forall₂_of_common (fun slot x result hslot hgives => ?_) (forall₂_slotsOf p.course) hgiven
  obtain ⟨suite, case, t, elapsedMs, hcase, rfl⟩ := hgives
  cases hslot.symm.trans hcase
  have hlisting : listingOf (l.selection.applyTo base) registry suite case =
      listingOf p.config p.install suite case := by
    rw [listingOf, listingOf, hconfig, ← hinstall', ← selection, skipReason?_applyTo]
  show Predicts (listingOf (l.selection.applyTo base) registry suite case) _
  rw [hlisting]
  exact predicts_run ⟨p.config, p.install⟩ site.machine t suite case elapsedMs

/-- A suite with a case that is skipped and one that is not. -/
def skippedFirstFiles : FileTree := suiteAlone
  ("\x7b\"tests\":[\x7b\"name\":\"a\",\"model\":\"m\",\"skip\":\"later\"\x7d," ++
    "\x7b\"name\":\"b\",\"model\":\"m\"\x7d]\x7d")

/-- The cases of the suite are listed. -/
def skippedFirstList : Reply :=
  carryOut complainingSite skippedFirstFiles
    ⟨⟨0, false, none, none⟩, .list ⟨oneCaseRequest.selection, "json"⟩⟩

/-- The cases of the suite are run. -/
def skippedFirstRun : Reply :=
  carryOut complainingSite skippedFirstFiles ⟨⟨0, false, none, none⟩, .run oneCaseRequest⟩

/-- What is printed for the cases of the suite. -/
def skippedFirstText : String :=
  "[\x7b\"suite\":\"demo\",\"test_type\":\"default\",\"name\":\"a\",\"model\":\"m\"," ++
    "\"skip\":\"later\"\x7d,\x7b\"suite\":\"demo\",\"test_type\":\"default\",\"name\":\"b\"," ++
    "\"model\":\"m\",\"skip\":null\x7d]\n"

theorem skippedFirst_evaluates : skippedFirstList.fault.isNone = true ∧
    skippedFirstRun.fault.isNone = true ∧ skippedFirstRun.status.code = 1 ∧
    skippedFirstList.printed = skippedFirstText ∧
    Config.resolve skippedFirstFiles .empty none none = .ok .standard := by
  decide +kernel

theorem skippedFirst_listed :
    ∃ (p : RunPlan complainingSite ⟨0, false, none, none⟩ oneCaseRequest skippedFirstFiles)
      (format : OutputFormat) (text : String),
      p.Closed skippedFirstRun ∧ OutputFormat.ofName? "json" = some format ∧
      skippedFirstList.printed = text ++ "\n" ∧ skippedFirstList.printed = skippedFirstText ∧
      text = (complainingSite.formatter format).listing
        (Work.listingsOf (oneCaseRequest.selection.applyTo .standard) none p.suites) ∧
      (complainingSite.formatter format).Shows (oneCaseRequest.selection.applyTo .standard) none
        p.suites text ∧
      List.Forall₂ Predicts
        (Work.listingsOf (oneCaseRequest.selection.applyTo .standard) none p.suites)
        p.results := by
  have tree : skippedFirstFiles.IsTree := ⟨by decide +kernel, by decide +kernel, by decide +kernel⟩
  obtain ⟨hlisted, hran, hcode, hprinted, hresolved⟩ := skippedFirst_evaluates
  have nowhere : ∀ files path, SimulatorConf.locate? files complainingSite.environment none ≠
      some path := nofun
  have found : complainingSite.Finds skippedFirstFiles
      (oneCaseRequest.selection.applyTo .standard).installFile none :=
    (rfl : (none : Option SimulatorConf) = _)
  have found' : ∀ p : RunPlan complainingSite ⟨0, false, none, none⟩ oneCaseRequest
      skippedFirstFiles, complainingSite.Finds p.made p.config.installFile none := by
    intro p
    have hinstalled : complainingSite.Finds p.made p.config.installFile p.install := p.installed
    have hbase : p.base = .standard := Except.ok.inj (p.resolved.symm.trans hresolved)
    rw [RunPlan.config, hbase] at hinstalled ⊢
    have hsame := found.eq_of_grown p.grown_made (isRegular_suiteAlone _)
      (fun path h => absurd h (nowhere _ path)) hinstalled
    rwa [← hsame] at hinstalled
  have quiet : skippedFirstRun.status ≠ .interruption := by
    intro h
    rw [h] at hcode
    cases hcode
  obtain ⟨p, format, text, closed, hformat, htext, hlisting, shows, predicts⟩ :=
    list_predicts_run tree hresolved hresolved rfl rfl (Option.isNone_iff_eq_none.1 hlisted) rfl
      (Option.isNone_iff_eq_none.1 hran) found found' quiet rfl
  exact ⟨p, format, text, closed, hformat, htext, hprinted, hlisting, shows, predicts⟩

end SuiteRunner
