import StepFlow.Proofs.Command.Listing
import StepFlow.Proofs.Time.Calendar

/-!
# Run logs in the order of their runs

A run that is given no identifier is named after the second in which it starts, with a few
characters behind that tell it from other runs of that second. Its log is named after the run. So
the order of names, in which the run logs of a directory are listed, is the order in which the runs
started.

This is so for runs of different seconds. What stands behind the second does not matter to them, nor
do other files in the directory that are not named like logs.

## Main definitions

* `Started` — a run that is named after its start
* `HoldsLogs` — a directory has the logs of some runs in it

## Main results

* `Started.logName_lt` — the names of logs are in the order of their runs
* `HoldsLogs.latest_first` — so are the logs in a directory, and the latest is the one to be printed
-/

namespace StepFlow

open Act

variable {out : Surroundings} {w : World} {directory : Path}

/-! ### The name of a log -/

/-- A run that is named after its start. -/
structure Started where
  start : Instant
  /-- What tells it from other runs of the same second. -/
  suffix : String
  deriving DecidableEq, Repr

namespace Started

variable {r r' : Started}

/-- The name of the log of a run. -/
def logName (r : Started) : String := RunLog.idAt r.start r.suffix ++ ".json"

/-- The log of a run in a directory. -/
def logIn (directory : Path) (r : Started) : Path :=
  ⟨directory.root, directory.names ++ [r.logName]⟩

/-- The second in which a run starts. -/
def second (r : Started) : Nat := r.start.second

/-- The year in which a run starts has four digits. -/
def Dated (r : Started) : Prop :=
  1000 ≤ r.start.toDateTime.date.year ∧ r.start.toDateTime.date.year ≤ 9999

theorem isLogName_logName (r : Started) : RunLog.isLogName r.logName = true := by
  rw [RunLog.isLogName, List.isSuffixOf_iff_suffix, logName, String.toList_append]
  exact List.suffix_append _ _

/-- **The names of logs are in the order of their runs.** -/
theorem logName_lt (hr : r.Dated) (hr' : r'.Dated) (h : r.second < r'.second) :
    r.logName < r'.logName := by
  rw [String.lt_iff_toList_lt]
  simp only [logName, RunLog.idAt, String.toList_append, List.append_assoc]
  exact Instant.compact_append_lt hr.2 hr'.2 h _ _

/-- A new run is named after what the clock shows. -/
theorem runId_of_create {workflow input : String} {vars : List (Value × Value)} {log : RunLog}
    {w' : World}
    (h : (RunLog.create directory workflow input vars "").perform out w = (.ok log, w')) :
    log.runId ++ ".json" = logName ⟨out.clock w.readings, out.runSuffix⟩ := by
  cases h
  rfl

end Started

/-! ### The logs in a directory -/

/-- A directory has the logs of some runs in it, and nothing else that is named like a log. -/
structure HoldsLogs (out : Surroundings) (w : World) (directory : Path) (runs : List Started) :
    Prop where
  /-- The path can be looked up. -/
  noNul : '\x00' ∉ directory.text.toList
  listed : ∃ names others, w.files.list out.workspace.names directory.text = .ok names ∧
    names.Perm (runs.map Started.logName ++ others) ∧ ∀ n ∈ others, RunLog.isLogName n = false

/-- Runs in the order in which they are listed. -/
def LatestFirst (runs : List Started) : Prop := runs.Pairwise fun r r' => r'.second < r.second

/-- Runs of different seconds can be put into this order. -/
theorem exists_latestFirst {runs : List Started}
    (h : runs.Pairwise fun r r' => r.second ≠ r'.second) :
    ∃ ordered, ordered.Perm runs ∧ LatestFirst ordered := by
  have hperm := List.mergeSort_perm runs fun r r' => decide (r'.second ≤ r.second)
  refine ⟨_, hperm, ?_⟩
  have hsorted : (runs.mergeSort fun r r' => decide (r'.second ≤ r.second)).Pairwise
      fun r r' => decide (r'.second ≤ r.second) = true := by
    refine List.pairwise_mergeSort ?_ ?_ runs
    · intro r₁ r₂ r₃ h₁₂ h₂₃
      rw [decide_eq_true_eq] at h₁₂ h₂₃ ⊢
      exact Nat.le_trans h₂₃ h₁₂
    · intro r r'
      rw [Bool.or_eq_true, decide_eq_true_eq, decide_eq_true_eq]
      exact Nat.le_total _ _
  have hne := (hperm.pairwise_iff fun h => Ne.symm h).mpr h
  exact (hsorted.and hne).imp fun h => Nat.lt_of_le_of_ne (of_decide_eq_true h.1) h.2.symm

theorem LatestFirst.pairwise_logName {runs : List Started} (hdated : ∀ r ∈ runs, r.Dated)
    (h : LatestFirst runs) : (runs.map Started.logName).Pairwise (· ≥ ·) := by
  refine List.pairwise_map.mpr (List.Pairwise.imp_of_mem (fun hr hr' hlt => ?_) h)
  exact le_of_lt (Started.logName_lt (hdated _ hr') (hdated _ hr) hlt)

/-- The latest run comes first. -/
theorem LatestFirst.head_eq {newest latest : Started} {older : List Started}
    (h : LatestFirst (newest :: older)) (hmem : latest ∈ newest :: older)
    (hlatest : ∀ r ∈ newest :: older, r.second ≤ latest.second) : newest = latest := by
  rcases List.mem_cons.mp hmem with heq | hmem
  · exact heq.symm
  · have hlt := List.rel_of_pairwise_cons h hmem
    exact absurd hlt (Nat.not_lt_of_le (hlatest newest List.mem_cons_self))

namespace HoldsLogs

variable {runs : List Started}

/-- The names of logs in the directory are those of the runs. -/
theorem perm_filter {names others : List String}
    (hnames : names.Perm (runs.map Started.logName ++ others))
    (hothers : ∀ n ∈ others, RunLog.isLogName n = false) :
    (names.filter RunLog.isLogName).Perm (runs.map Started.logName) := by
  have hlogs : (runs.map Started.logName).filter RunLog.isLogName = runs.map Started.logName :=
    List.filter_eq_self.mpr fun n hn => by
      obtain ⟨r, -, rfl⟩ := List.mem_map.mp hn
      exact r.isLogName_logName
  have hnone : others.filter RunLog.isLogName = [] :=
    List.filter_eq_nil_iff.mpr fun n hn => Bool.not_eq_true _ ▸ hothers n hn
  have hperm := hnames.filter RunLog.isLogName
  rwa [List.filter_append, hlogs, hnone, List.append_nil] at hperm

/-- The logs are listed in the order of their names, and so in that of the runs. -/
theorem perform_files {ordered : List Started} (h : HoldsLogs out w directory runs)
    (hdated : ∀ r ∈ runs, r.Dated) (hperm : ordered.Perm runs) (hordered : LatestFirst ordered) :
    (RunLog.files directory).perform out w =
      (.ok (ordered.map (Started.logIn directory)), w) := by
  obtain ⟨names, others, hlist, hnames, hothers⟩ := h.listed
  obtain ⟨hsorted, hfound⟩ := Command.newestFirst_reverse (names.filter RunLog.isLogName)
  have hnames : (sortedTexts (names.filter RunLog.isLogName)).reverse =
      ordered.map Started.logName := by
    refine List.Perm.eq_of_pairwise (fun (a b : String) _ _ hab hba => le_antisymm hba hab) hsorted
      (hordered.pairwise_logName fun r hr => hdated r (hperm.mem_iff.mp hr)) ?_
    exact hfound.trans ((perm_filter hnames hothers).trans (hperm.map _).symm)
  rw [Command.perform_files h.noNul hlist, hnames, List.map_map]
  rfl

end HoldsLogs

/-- The first run log of the list is the one that is printed. -/
theorem Command.perform_showLogs_last {d : SettingsDirectory} {settings : Settings} {newest : Path}
    {older : List Path} (hsettings : (d.load Yaml.read).perform out w = (.ok settings, w))
    (hdirectory : (d.logDirectory settings).perform out w = (.ok directory, w))
    (hfiles : (RunLog.files directory).perform out w = (.ok (newest :: older), w)) :
    (showLogs d true).perform out w = (printWholeLog newest).perform out w := by
  have hfound : (do d.logDirectory (← d.load Yaml.read) : Act Path).perform out w =
      (.ok directory, w) := (perform_bind_of_ok hsettings _).trans hdirectory
  rw [showLogs, perform_bind_of_ok (perform_attempt_ok_iff.mpr hfound)]
  dsimp only
  rw [perform_bind_of_ok hfiles]
  rfl

/-- **Run logs are listed in the reverse order of the starts of their runs**, each of them once, and
the one that is printed alone is that of the latest run. -/
theorem HoldsLogs.latest_first {runs : List Started} (h : HoldsLogs out w directory runs)
    (hdated : ∀ r ∈ runs, r.Dated) (hseconds : runs.Pairwise fun r r' => r.second ≠ r'.second) :
    (∃ ordered, ordered.Perm runs ∧ LatestFirst ordered ∧
      (RunLog.files directory).perform out w =
        (.ok (ordered.map (Started.logIn directory)), w)) ∧
    ∀ {d : SettingsDirectory} {settings : Settings} {latest : Started},
      (d.load Yaml.read).perform out w = (.ok settings, w) →
      (d.logDirectory settings).perform out w = (.ok directory, w) →
      latest ∈ runs → (∀ r ∈ runs, r.second ≤ latest.second) →
      (Command.showLogs d true).perform out w =
        (Command.printWholeLog (latest.logIn directory)).perform out w := by
  obtain ⟨ordered, hperm, hordered⟩ := exists_latestFirst hseconds
  have hfiles := h.perform_files hdated hperm hordered
  refine ⟨⟨ordered, hperm, hordered, hfiles⟩, ?_⟩
  intro d settings latest hsettings hdirectory hmem hlatest
  cases ordered with
  | nil => exact absurd (hperm.mem_iff.mpr hmem) List.not_mem_nil
  | cons newest older =>
    have hnewest := hordered.head_eq (hperm.mem_iff.mpr hmem)
      fun r hr => hlatest r (hperm.mem_iff.mp hr)
    rw [Command.perform_showLogs_last hsettings hdirectory hfiles, hnewest]

/-! ### Two runs around the turn of a year -/

/-- The last run of a year and the first one of the next. -/
def turnOfYear : List Started :=
  [⟨⟨63871286399000000⟩, "zzzzzz"⟩, ⟨⟨63871286400000000⟩, "000000"⟩]

/-- The logs of both runs, with the temporary file of a third that was stopped. -/
def turnOfYearWorld : World where
  files := ⟨[(["settings"], .directory), (["settings", "logs"], .directory),
    (["settings", "logs", "20250101T000001Z-a1b2c3.tmp"], .file []),
    (["settings", "logs", "20241231T235959Z-zzzzzz.json"], .file []),
    (["settings", "logs", "20250101T000000Z-000000.json"], .file [])]⟩

theorem logName_turnOfYear : turnOfYear.map Started.logName =
    ["20241231T235959Z-zzzzzz.json", "20250101T000000Z-000000.json"] := by
  decide +kernel

theorem holdsLogs_turnOfYear :
    HoldsLogs .silent turnOfYearWorld ⟨"/", ["settings", "logs"]⟩ turnOfYear where
  noNul := by decide
  listed := by
    refine ⟨["20250101T000001Z-a1b2c3.tmp"] ++ turnOfYear.map Started.logName,
      ["20250101T000001Z-a1b2c3.tmp"], ?_, List.perm_append_comm, by decide⟩
    rw [logName_turnOfYear]
    rfl

/-- The run of the new year is the latest, although its name ends with the lesser characters. -/
theorem latest_first_turnOfYear :
    (∃ ordered, ordered.Perm turnOfYear ∧ LatestFirst ordered ∧
      (RunLog.files ⟨"/", ["settings", "logs"]⟩).perform .silent turnOfYearWorld =
        (.ok (ordered.map (Started.logIn ⟨"/", ["settings", "logs"]⟩)), turnOfYearWorld)) ∧
    (Command.showLogs ⟨⟨"/", ["settings"]⟩⟩ true).perform .silent turnOfYearWorld =
      (Command.printWholeLog ⟨"/", ["settings", "logs", "20250101T000000Z-000000.json"]⟩).perform
        .silent turnOfYearWorld := by
  have hdated : ∀ r ∈ turnOfYear, r.Dated := by
    unfold Started.Dated
    decide +kernel
  have hseconds : turnOfYear.Pairwise fun r r' => r.second ≠ r'.second := by decide +kernel
  obtain ⟨hfiles, hlast⟩ := holdsLogs_turnOfYear.latest_first hdated hseconds
  refine ⟨hfiles, ?_⟩
  have hname : Started.logName ⟨⟨63871286400000000⟩, "000000"⟩ = "20250101T000000Z-000000.json" :=
    (List.cons.inj (List.cons.inj logName_turnOfYear).2).1
  have hmem : (⟨⟨63871286400000000⟩, "000000"⟩ : Started) ∈ turnOfYear := by decide
  have hprinted := hlast (d := ⟨⟨"/", ["settings"]⟩⟩) rfl rfl hmem (by decide +kernel)
  rwa [Started.logIn, hname] at hprinted

end StepFlow
