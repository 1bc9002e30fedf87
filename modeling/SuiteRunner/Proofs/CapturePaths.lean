import SuiteRunner.Execution.Runner
import SuiteRunner.Suite.Discovery
import SuiteRunner.Proofs.SafeNames

/-!
# Where the outputs of cases go

The output of a case goes to a file in the directory of its suite, which is joined to the output
directory by the name of the suite.  The name of the file is made safe, the name of the suite is
not.

* **`Runner.captures_below`** — the captures of a suite whose name is a relative path that does not
  lead up are below the output directory, whatever its cases are called;
* `escapingSuite_captures`, a suite that is accepted, and whose captures are somewhere else;
* **`Runner.captures_eq_iff`** — among suites that are called by single names, captures are the same
  exactly for the same suite and cases with the same safe name;
* `twinCases_share_captures`, two cases of a suite that is accepted, which have the same captures.
-/

namespace SuiteRunner

open SuiteRunner.Path

/-! ### Directories of suites -/

namespace FileTree

variable {t : FileTree} {dir name : String}

theorem absolute_of_find {l : Location} {e : Entry} (h : t.find dir = .ok (l, e)) :
    t.absolute dir = l.path := by
  rw [absolute, h]

theorem absolute_of_error {fault : FileFault} (h : t.find dir = .error fault) :
    t.absolute dir = dir := by
  rw [absolute, h]

/-- What is found from a proper working directory has a proper location. -/
theorem isProper_of_find {l : Location} {e : Entry} (proper : t.working.IsProper)
    (h : t.find dir = .ok (l, e)) : l.IsProper := by
  refine follow_isProper (l := t.origin dir) ?_ ?_ (locate_eq_ok.1 (find_eq_ok.1 h).1).2
  · rw [origin]
    split
    · simp [Location.IsProper]
    · exact proper
  · intro piece hpiece
    obtain ⟨p, hp, rfl⟩ := List.mem_map.1 hpiece
    rw [String.toList_ofList]
    exact Text.notMem_of_mem_splitOn (pieces_eq dir ▸ hp)

/-- **A relative path that does not lead up stays below its directory**, as the directory is given
or as it is found. -/
theorem absolute_join_below (proper : t.working.IsProper) (nonempty : dir ≠ "")
    (relative : isAbsolute name = false) (noUp : up ∉ pieces name) :
    Below dir (t.absolute (join dir name)) ∨ t.absolute (join dir name) = t.absolute dir ∨
      Below (t.absolute dir) (t.absolute (join dir name)) := by
  cases hfind : t.find (join dir name) with
  | error fault =>
    rw [absolute_of_error hfind]
    exact .inl (below_join dir relative noUp)
  | ok found =>
    obtain ⟨l, e⟩ := found
    obtain ⟨base, hbase, hfollow⟩ := find_join nonempty relative hfind
    have hclean : ∀ n ∈ (pieces name).map String.ofList, '/' ∉ n.toList ∧ n ≠ ".." := by
      intro n hn
      obtain ⟨p, hp, rfl⟩ := List.mem_map.1 hn
      refine ⟨?_, fun hup => noUp ?_⟩
      · rw [String.toList_ofList]
        exact Text.notMem_of_mem_splitOn (pieces_eq name ▸ hp)
      · have hp' : p = up := by
          rw [← String.toList_ofList (l := p), hup]
          rfl
        exact hp' ▸ hp
    have hl := follow_eq_append (fun hup => (hclean _ hup).2 rfl) hfollow
    rw [absolute_of_find hfind, absolute_of_find hbase, hl]
    right
    by_cases hnil : ((pieces name).map String.ofList).filter (fun n => n ≠ "" && n ≠ ".") = []
    · left
      rw [hnil, List.append_nil]
    · right
      refine Location.below_path (isProper_of_find proper hbase) hnil fun n hn => ?_
      obtain ⟨hmem, hidle⟩ := List.mem_filter.1 hn
      simp only [Bool.and_eq_true, decide_eq_true_eq] at hidle
      exact ⟨hidle.1, hclean n hmem⟩

/-- A path that ends with a name still does so when it has been followed. -/
theorem pieces_absolute_join (t : FileTree) (dir : String) (h : IsName name) :
    ∃ ps, pieces (t.absolute (join dir name)) = ps ++ [name.toList] := by
  cases hfind : t.find (join dir name) with
  | error fault =>
    rw [absolute_of_error hfind, pieces_join dir h.relative, h.pieces_eq]
    exact ⟨_, rfl⟩
  | ok found =>
    obtain ⟨l, e⟩ := found
    obtain ⟨base, hl⟩ := locate_join_eq_append h (find_eq_ok.1 hfind).1
    rw [absolute_of_find hfind]
    obtain ⟨s, hs⟩ := Location.toList_path_concat base name
    refine ⟨s.splitOn '/', ?_⟩
    rw [hl, pieces_eq, hs, List.splitOn_append_cons_self, List.splitOn_eq_singleton h.2.1]

end FileTree

/-- Where the last piece is a name, all pieces stand before what is joined. -/
theorem Path.lead_eq_pieces {dir : String} {ps : List (List Char)} {last : List Char}
    (h : pieces dir = ps ++ [last]) (nonempty : last ≠ []) : lead dir = pieces dir := by
  rw [pieces_eq] at h
  rw [lead, pieces_eq]
  split
  · rename_i hempty
    rw [hempty, List.splitOn_nil] at h
    have hlast := congrArg List.getLast? h
    simp only [List.getLast?_singleton, List.getLast?_concat, Option.some.injEq] at hlast
    exact absurd hlast.symm nonempty
  · split
    · rename_i hslash
      obtain ⟨s, hs⟩ := List.getLast?_eq_some_iff.1 hslash
      rw [hs, List.splitOn_append_cons_self, List.splitOn_nil] at h
      have hlast := congrArg List.getLast? h
      simp only [List.getLast?_concat, Option.some.injEq] at hlast
      exact absurd hlast.symm nonempty
    · rfl

/-! ### Captures -/

namespace Runner

variable (r : Runner) (files : FileTree) (s : Suite) (c : TestCase)

theorem isName_out (name : String) : IsName (fileSafe name ++ ".out") :=
  isName_fileSafe_append name (by decide) (by decide)

theorem isName_err (name : String) : IsName (fileSafe name ++ ".err") :=
  isName_fileSafe_append name (by decide) (by decide)

theorem stdout_captureOf : (r.captureOf files s c).stdout =
    join (files.absolute (join r.config.outputDir s.name)) (fileSafe c.name ++ ".out") := by
  rw [captureOf, Capture.within, outputDirOf]

theorem stderr_captureOf : (r.captureOf files s c).stderr =
    join (files.absolute (join r.config.outputDir s.name)) (fileSafe c.name ++ ".err") := by
  rw [captureOf, Capture.within, outputDirOf]

/-- **The captures of a suite stay below the output directory**, as it is given or as it is found,
if the name of the suite is a relative path that does not lead up.  The names of the cases do not
matter. -/
theorem captures_below (proper : files.working.IsProper) (nonempty : r.config.outputDir ≠ "")
    (relative : isAbsolute s.name = false) (noUp : up ∉ pieces s.name) :
    ∃ dir, (dir = r.config.outputDir ∨ dir = files.absolute r.config.outputDir) ∧
      Below dir (r.captureOf files s c).stdout ∧ Below dir (r.captureOf files s c).stderr := by
  have hout := isName_out c.name
  have herr := isName_err c.name
  rw [stdout_captureOf, stderr_captureOf]
  rcases FileTree.absolute_join_below proper nonempty relative noUp with h | h | h
  · exact ⟨_, .inl rfl, h.join hout.relative hout.up_notMem, h.join herr.relative herr.up_notMem⟩
  · rw [h]
    exact ⟨_, .inr rfl, below_join _ hout.relative hout.up_notMem,
      below_join _ herr.relative herr.up_notMem⟩
  · exact ⟨_, .inr rfl, h.join hout.relative hout.up_notMem, h.join herr.relative herr.up_notMem⟩

end Runner

/-- A working directory with one suite file. -/
def suiteAlone (text : String) : FileTree :=
  ⟨[(["testsuite_default_demo.json"], .file (Utf8.encode text.toList))], []⟩

def outRunner : Runner := ⟨{ Config.standard with outputDir := "out" }, none⟩

/-- Two cases whose names differ in a blank and an underscore. -/
def twinFiles : FileTree := suiteAlone
  "\x7b\"tests\":[\x7b\"name\":\"a b\",\"model\":\"m\"\x7d,\x7b\"name\":\"a_b\",\"model\":\"m\"\x7d]\x7d"

def twinSuite : Suite :=
  ⟨"demo", none, [], .none, [.plain "a b" "m", .plain "a_b" "m"],
    "./testsuite_default_demo.json", "default"⟩

theorem twinSuite_captures_below :
    twinFiles.working.IsProper ∧ outRunner.config.outputDir ≠ "" ∧
      isAbsolute twinSuite.name = false ∧ up ∉ pieces twinSuite.name ∧
    ∃ dir, (dir = "out" ∨ dir = twinFiles.absolute "out") ∧
      Below dir (outRunner.captureOf twinFiles twinSuite (.plain "a b" "m")).stdout ∧
      Below dir (outRunner.captureOf twinFiles twinSuite (.plain "a b" "m")).stderr :=
  ⟨by decide, by decide, by decide, by decide,
    outRunner.captures_below twinFiles twinSuite (.plain "a b" "m") (by decide) (by decide)
      (by decide) (by decide)⟩

/-- A suite with a name that leads up. -/
def escapingFiles : FileTree := suiteAlone
  "\x7b\"name\":\"../up\",\"tests\":[\x7b\"name\":\"c\",\"model\":\"m\"\x7d]\x7d"

def escapingSuite : Suite :=
  ⟨"../up", none, [], .none, [.plain "c" "m"], "testsuite_default_demo.json", "default"⟩

/-- The suite is accepted, its directory can be made, and the captures are beside the output
directory. -/
theorem escapingSuite_captures :
    (loadSuite escapingFiles "testsuite_default_demo.json").toOption = some escapingSuite ∧
    ∃ files, (escapingFiles.createDirectories (outRunner.outputDirOf escapingSuite)).toOption =
        some files ∧
      (outRunner.captureOf files escapingSuite (.plain "c" "m")).stdout = "/up/c.out" ∧
      files.absolute "out" = "/out" ∧ ¬ Below "out" "/up/c.out" ∧ ¬ Below "/out" "/up/c.out" := by
  refine ⟨by decide +kernel, ?_⟩
  have found : ((escapingFiles.createDirectories (outRunner.outputDirOf escapingSuite)).toOption.map
      fun files => ((outRunner.captureOf files escapingSuite (.plain "c" "m")).stdout,
        files.absolute "out")) = some ("/up/c.out", "/out") := by decide +kernel
  obtain ⟨files, hfiles, hpair⟩ := Option.map_eq_some_iff.1 found
  obtain ⟨hstdout, hout⟩ := Prod.mk.inj hpair
  refine ⟨files, hfiles, hstdout, hout, fun h => ?_, fun h => ?_⟩
  · exact absurd h.front_prefix (by decide +kernel)
  · exact absurd h.front_prefix (by decide +kernel)

namespace Runner

variable (r : Runner) (files : FileTree) (s : Suite)

/-- The last two pieces of a file in the directory of a suite. -/
theorem pieces_of_capture {file : String} (hs : IsName s.name) (hfile : IsName file) :
    ∃ ps, pieces (join (files.absolute (join r.config.outputDir s.name)) file) =
      ps ++ [s.name.toList, file.toList] := by
  have hname : s.name.toList ≠ [] := fun h => hs.1 (String.toList_eq_nil_iff.1 h)
  obtain ⟨ps, hps⟩ := files.pieces_absolute_join r.config.outputDir hs
  refine ⟨ps, ?_⟩
  rw [pieces_join _ hfile.relative, hfile.pieces_eq, lead_eq_pieces hps hname, hps,
    List.append_assoc]
  rfl

/-- Equal files in the directories of suites have equal names, and so have the suites. -/
theorem names_eq_of_captures_eq {files' : FileTree} {s' : Suite} {file file' : String}
    (hs : IsName s.name) (hs' : IsName s'.name) (hfile : IsName file) (hfile' : IsName file')
    (h : join (files.absolute (join r.config.outputDir s.name)) file =
      join (files'.absolute (join r.config.outputDir s'.name)) file') :
    s.name = s'.name ∧ file = file' := by
  obtain ⟨ps, hps⟩ := r.pieces_of_capture files s hs hfile
  obtain ⟨qs, hqs⟩ := r.pieces_of_capture files' s' hs' hfile'
  have hlast : [s.name.toList, file.toList] = [s'.name.toList, file'.toList] := by
    rw [h, hqs] at hps
    exact ((List.append_inj' hps rfl).2).symm
  simp only [List.cons.injEq, String.toList_inj, and_true] at hlast
  exact hlast

theorem append_right_cancel {a b extension : String} (h : a ++ extension = b ++ extension) :
    a = b := by
  rw [← String.toList_inj, String.toList_append, String.toList_append] at h
  exact String.toList_inj.1 (List.append_cancel_right h)

/-- **Among suites that are called by single names, captures are shared exactly by cases of one
suite that have the same safe name**, even if the files have changed between the two cases.  An
output never goes where the errors of a case go. -/
theorem captures_eq_iff {s s' : Suite} (hs : IsName s.name) (hs' : IsName s'.name)
    (c c' : TestCase) :
    (∀ files', (r.captureOf files s c).stdout = (r.captureOf files' s' c').stdout ∨
        (r.captureOf files s c).stderr = (r.captureOf files' s' c').stderr →
      s.name = s'.name ∧ fileSafe c.name = fileSafe c'.name) ∧
    (s.name = s'.name → fileSafe c.name = fileSafe c'.name →
      (r.captureOf files s c).stdout = (r.captureOf files s' c').stdout ∧
        (r.captureOf files s c).stderr = (r.captureOf files s' c').stderr) ∧
    (∀ files', (r.captureOf files s c).stdout ≠ (r.captureOf files' s' c').stderr) := by
  simp only [stdout_captureOf, stderr_captureOf]
  refine ⟨fun files' h => ?_, fun hname hsafe => ?_, fun files' h => ?_⟩
  · rcases h with h | h
    · have hboth := r.names_eq_of_captures_eq files s hs hs' (isName_out _) (isName_out _) h
      exact ⟨hboth.1, append_right_cancel hboth.2⟩
    · have hboth := r.names_eq_of_captures_eq files s hs hs' (isName_err _) (isName_err _) h
      exact ⟨hboth.1, append_right_cancel hboth.2⟩
  · rw [hname, hsafe]
    exact ⟨rfl, rfl⟩
  · have hboth := r.names_eq_of_captures_eq files s hs hs' (isName_out _) (isName_err _) h
    have hlength : ".out".toList.length = ".err".toList.length := by decide +kernel
    have hlists := congrArg String.toList hboth.2
    rw [String.toList_append, String.toList_append] at hlists
    exact absurd (List.append_inj' hlists hlength).2 (by decide)

end Runner

theorem demoCaptures_apart :
    IsName twinSuite.name ∧
    (outRunner.captureOf twinFiles twinSuite (.plain "a b" "m")).stdout ≠
      (outRunner.captureOf twinFiles twinSuite (.plain "c" "m")).stdout := by
  have named : IsName twinSuite.name := by decide
  refine ⟨named, fun shared => ?_⟩
  have same := outRunner.captures_eq_iff twinFiles named named (.plain "a b" "m") (.plain "c" "m")
  exact absurd (same.1 twinFiles (.inl shared)).2 (by decide +kernel)

/-- The suite is found, both cases are in it, and whatever the output directory and the files are,
the two have one and the same capture. -/
theorem twinCases_share_captures :
    (discover twinFiles ⟨["."], "default", none⟩ none).toOption = some [twinSuite] ∧
    TestCase.plain "a b" "m" ∈ twinSuite.cases ∧ TestCase.plain "a_b" "m" ∈ twinSuite.cases ∧
    ∀ (r : Runner) (files : FileTree),
      (r.captureOf files twinSuite (.plain "a b" "m")).stdout =
        (r.captureOf files twinSuite (.plain "a_b" "m")).stdout ∧
      (r.captureOf files twinSuite (.plain "a b" "m")).stderr =
        (r.captureOf files twinSuite (.plain "a_b" "m")).stderr := by
  have safe : fileSafe "a b" = fileSafe "a_b" := by decide +kernel
  refine ⟨by decide +kernel, by decide +kernel, by decide +kernel, fun r files => ?_⟩
  simp only [Runner.stdout_captureOf, Runner.stderr_captureOf, TestCase.plain, safe, and_self]

end SuiteRunner
