import StepFlow.Proofs.Workflow.Conformance
import Mathlib.Data.List.Forall2
import Mathlib.Data.List.ReduceOption

/-!
# Documents entry by entry

The workflows of a document are read one after the other, into one list of errors, and a workflow
that cannot be made out is left where its reading has got stuck. Yet none of them has to do with
another. What reading an entry comes to, and which errors it adds, does not depend on the errors
before it (`Reading.Grows`), and the workflows that have been made out before it are not looked at.
So the errors of a document are those of its entries, one after the other.

An entry alone is taken as a document of its own, with nothing else in it. So all this can be said of
what is loaded from files. Loading leaves nothing behind, and therefore it does not matter either what
has been loaded before.

## Main definitions

* `Reading.errors` — the errors that reading adds
* `Document.readEntry` — what reading an entry comes to, apart from the others
* `Document.alone` — a document with one entry
* `Document.reported` — the errors that are reported of a document
* `Workflow.loadedAlone` — what loading a file with one entry comes to

## Main results

* `Reading.errors_mapM`, `Reading.clean_mapM_iff` — reading several things
* `Document.readEntries_eq` — the entries of a document are read one by one
* `Document.reported_workflows` — the errors of a document are those of its entries
* `Workflow.perform_loads` — loads one after the other
* `Workflow.load_entrywise` — all this of files
-/

namespace StepFlow

open Act

/-! ### Reading several things -/

namespace Reading

variable {α β : Type}

/-- The errors that reading adds, unless it ends with a fault. -/
def errors (a : Reading α) : Except Fault (List DefinitionError) :=
  (a.run []).1.map fun _ => (a.run []).2

@[simp] theorem errors_pure (v : α) : errors (pure v) = .ok [] := rfl

/-- The errors of a sequence are those of its parts. -/
theorem errors_bind (a : Reading α) {f : α → Reading β} (hf : ∀ v, Grows (f v)) :
    errors (a >>= f) = match a.run [] with
      | (.ok v, more) => (errors (f v)).map (more ++ ·)
      | (.error e, _) => .error e := by
  rw [errors, run_bind]
  rcases a.run [] with ⟨e | v, more⟩
  · rfl
  · dsimp only
    rw [hf v more, errors]
    cases ((f v).run []).1 <;> rfl

variable {f : α → Reading β}

theorem Grows.mapM (hf : ∀ x, Grows (f x)) (xs : List α) : Grows (xs.mapM f) := by
  induction xs with
  | nil => exact .pure _
  | cons x xs ih =>
    rw [List.mapM_cons]
    exact .bind (hf x) fun _ => .bind ih fun _ => .pure _

/-- What is made of the values that are read adds no errors. -/
theorem errors_map (a : Reading α) (g : α → β) : errors (g <$> a) = errors a := by
  rw [map_eq_pure_bind, errors_bind a fun v => .pure (g v), errors]
  rcases a.run [] with ⟨e | v, more⟩
  · rfl
  · simp [Except.map]

/-- **The errors of several things are those of each of them**, one after the other. Where the
reading of one ends with a fault, the errors of the others do not matter. -/
theorem errors_mapM (hf : ∀ x, Grows (f x)) (xs : List α) :
    errors (xs.mapM f) = (xs.mapM fun x => errors (f x)).map List.flatten := by
  induction xs with
  | nil => rfl
  | cons x xs ih =>
    have hrest (v : β) : errors (do return v :: (← xs.mapM f)) = errors (xs.mapM f) := by
      rw [← map_eq_pure_bind, errors_map]
    have hgrows (v : β) : Grows (do return v :: (← xs.mapM f)) :=
      .bind (.mapM hf xs) fun _ => .pure _
    rw [List.mapM_cons, List.mapM_cons, errors_bind _ hgrows]
    simp only [hrest, ih]
    rw [errors]
    rcases (f x).run [] with ⟨e | v, more⟩
    · rfl
    · cases xs.mapM fun x => errors (f x) <;> rfl

/-- Several things are read without an error just if each of them is. -/
theorem clean_mapM_iff (hf : ∀ x, Grows (f x)) {xs : List α} {vs : List β} :
    Clean (xs.mapM f) vs ↔ List.Forall₂ (fun x v => Clean (f x) v) xs vs := by
  induction xs generalizing vs with
  | nil =>
    constructor
    · intro h
      cases h
      exact .nil
    · rintro ⟨⟩
      rfl
  | cons x xs ih =>
    rw [List.mapM_cons]
    constructor
    · intro h
      obtain ⟨v, hv, h⟩ := h.of_bind fun v => .bind (.mapM hf xs) fun _ => .pure _
      obtain ⟨us, hus, h⟩ := h.of_bind fun _ => .pure _
      cases h
      exact .cons hv (ih.mp hus)
    · rintro (_ | ⟨hv, hus⟩)
      rw [Clean, run_bind, hv]
      dsimp only
      rw [run_bind, ih.mpr hus]
      rfl

end Reading

/-! ### The entries of a document -/

namespace Document

open Reading (Grows)

variable {doc : Value} {fields entries : List (Value × Value)}

/-- What reading an entry comes to, apart from the others: a workflow with its name, if one can be
made out. -/
def readEntry (e : Value × Value) : Reading (Option (String × Workflow)) := do
  let name ← textOf e.1
  match ← readWorkflow name e.2 with
  | none => return none
  | some w => do
    noteErrors w
    return some (name, w)

theorem readEntry_grows (e : Value × Value) : Grows (readEntry e) := by
  refine .bind (textOf_grows _) fun name => .bind (readWorkflow_grows _ _) fun found => ?_
  cases found with
  | none => exact .pure _
  | some w => exact .bind (noteErrors_grows _) fun _ => .pure _

/-- **The entries of a document are read one by one.** -/
theorem readEntries_eq (acc : Fields Workflow) (entries : List (Value × Value)) :
    readEntries acc entries = do return acc.setAll (← entries.mapM readEntry).reduceOption := by
  induction entries generalizing acc with
  | nil => rfl
  | cons e entries ih =>
    rw [List.mapM_cons, readEntries, readEntry]
    simp only [bind_assoc]
    refine bind_congr fun name => bind_congr fun found => ?_
    cases found with
    | none => simp [ih, List.reduceOption_cons_of_none]
    | some w => simp [ih, Fields.setAll, List.reduceOption_cons_of_some]

/-- A document with one entry. -/
def alone (e : Value × Value) : Value := .map [(.str "workflows", .map [e])]

/-- The errors that are reported of a document, where there is no other fault. -/
def reported : Except Fault (Fields Workflow) → Except Fault (List DefinitionError)
  | .ok _ => .ok []
  | .error (.definition errors) => .ok errors
  | .error e => .error e

/-- That a value does not fit is no error that is reported. -/
theorem reported_of_isUnfit {e : Fault} (h : e.IsUnfit) : reported (.error e) = .error e := by
  cases e with
  | definition => exact h.elim
  | _ => rfl

/-- What is reported of a document is what reading its entries adds. -/
theorem reported_eq_errors (hfields : doc.opened = .map fields)
    (hentries : (Value.lookup "workflows" fields).opened = .map entries) (hne : entries ≠ []) :
    reported (workflows doc) = Reading.errors (entries.mapM readEntry) := by
  have hread : Reading.errors (entries.mapM readEntry) = Reading.errors (readEntries [] entries) := by
    rw [readEntries_eq, ← map_eq_pure_bind, Reading.errors_map]
  obtain ⟨e, rest, rfl⟩ := List.exists_cons_of_ne_nil hne
  rw [hread, workflows, hfields]
  dsimp only
  rw [hentries, Reading.errors]
  dsimp only
  rcases readEntries_settles [] (e :: rest) [] with
    ⟨-, f, noted, hrun, hunfit⟩ | ⟨-, found, more, hrun, -⟩
  · rw [hrun]
    exact reported_of_isUnfit hunfit
  · rw [hrun]
    cases more <;> rfl

theorem reported_alone (e : Value × Value) :
    reported (workflows (alone e)) = Reading.errors (readEntry e) := by
  rw [@reported_eq_errors _ [(.str "workflows", .map [e])] [e] rfl rfl (List.cons_ne_nil _ _),
    Reading.errors_mapM readEntry_grows]
  cases h : Reading.errors (readEntry e) with
  | error f => simp [h, Except.map]
  | ok errors => simp [h, Except.map]

/-- **The errors of a document are those of its entries**, one after the other. -/
theorem reported_workflows (hfields : doc.opened = .map fields)
    (hentries : (Value.lookup "workflows" fields).opened = .map entries) (hne : entries ≠ []) :
    reported (workflows doc) =
      (entries.mapM fun e => reported (workflows (alone e))).map List.flatten := by
  simp only [reported_alone]
  rw [reported_eq_errors hfields hentries hne, Reading.errors_mapM readEntry_grows]

/-- There is nothing to report of a document just if it gives workflows. -/
theorem reported_eq_nil_iff (doc : Value) :
    reported (workflows doc) = .ok [] ↔ ∃ found, workflows doc = .ok found := by
  rcases workflows_cases doc with ⟨-, f, h, hunfit⟩ | ⟨-, ⟨found, h, -⟩ | ⟨errors, h, hne⟩⟩
  · simp [h, reported_of_isUnfit hunfit]
  · simp [h, reported]
  · simpa [h, reported] using hne

/-- Nothing is reported of several documents just if nothing is of each of them. -/
theorem mapM_flatten_eq_nil_iff {α : Type} {xs : List α}
    {g : α → Except Fault (List DefinitionError)} :
    (xs.mapM g).map List.flatten = .ok [] ↔ ∀ x ∈ xs, g x = .ok [] := by
  induction xs with
  | nil => exact iff_of_true rfl nofun
  | cons x xs ih =>
    rw [List.mapM_cons, List.forall_mem_cons, ← ih]
    rcases g x with e | errors
    · exact iff_of_false nofun fun h => nomatch h.1
    · cases xs.mapM g with
      | error e => exact iff_of_false nofun fun h => nomatch h.2
      | ok rest => simp [Except.map, bind, Except.bind, pure, Except.pure]

/-- A document gives workflows just if each of its entries does. -/
theorem exists_workflows_iff (hfields : doc.opened = .map fields)
    (hentries : (Value.lookup "workflows" fields).opened = .map entries) (hne : entries ≠ []) :
    (∃ found, workflows doc = .ok found) ↔
      ∀ e ∈ entries, ∃ found, workflows (alone e) = .ok found := by
  rw [← reported_eq_nil_iff, reported_workflows hfields hentries hne, mapM_flatten_eq_nil_iff]
  simp only [reported_eq_nil_iff]

end Document

/-! ### Files -/

namespace Workflow

open Document (reported alone)

variable {parse : List Char → Except Fault Value} {file : String} {out : Surroundings} {w : World}

/-- Loads one after the other come to what each of them comes to alone. -/
theorem perform_loads (loads : List ((List Char → Except Fault Value) × String))
    (out : Surroundings) (w : World) :
    (loads.mapM fun l => attempt (load l.1 l.2)).perform out w =
      (.ok (loads.map fun l => ((load l.1 l.2).perform out w).1), w) := by
  induction loads with
  | nil => rfl
  | cons l loads ih =>
    have hfirst : (attempt (load l.1 l.2)).perform out w =
        (.ok ((load l.1 l.2).perform out w).1, w) :=
      perform_attempt_ok_iff.mpr (perform_of_reads (load_respects l.1 l.2) out w)
    rw [List.mapM_cons, perform_bind_of_ok hfirst, perform_bind_of_ok ih]
    rfl

/-- What loading a file comes to when there is nothing in it but one entry. -/
def loadedAlone (file : String) (out : Surroundings) (w : World) (e : Value × Value) :
    Except Fault (Fields Workflow) :=
  ((load (fun _ => .ok (alone e)) file).perform out w).1

/-- **Files are loaded entry by entry.** The errors that are reported of a file are those that are
reported of its entries alone, one after the other; with another fault the first entry that has one
decides. So the file is loaded just if each entry alone is. What has been loaded before does not
matter. -/
theorem load_entrywise {bytes : List UInt8} {cs : List Char} {doc : Value}
    {fields entries : List (Value × Value)}
    (hbytes : Contains file out w bytes) (hcs : Text.Utf8.decode? bytes = some cs)
    (hdoc : parse (Text.normalizeNewlines cs) = .ok doc) (hfields : doc.opened = .map fields)
    (hentries : (Value.lookup "workflows" fields).opened = .map entries) (hne : entries ≠ []) :
    reported ((load parse file).perform out w).1 =
        (entries.mapM fun e => reported (loadedAlone file out w e)).map List.flatten ∧
      ((∃ found, ((load parse file).perform out w).1 = .ok found) ↔
        ∀ e ∈ entries, ∃ found, loadedAlone file out w e = .ok found) ∧
      ∀ loads : List ((List Char → Except Fault Value) × String),
        (loads.mapM fun l => attempt (load l.1 l.2)).perform out w =
          (.ok (loads.map fun l => ((load l.1 l.2).perform out w).1), w) := by
  have halone (e : Value × Value) : loadedAlone file out w e = Document.workflows (alone e) :=
    perform_load_of_contains hbytes hcs rfl
  simp only [perform_load_of_contains hbytes hcs hdoc, halone]
  exact ⟨Document.reported_workflows hfields hentries hne,
    Document.exists_workflows_iff hfields hentries hne, fun loads => perform_loads loads out w⟩

/-! ### Documents to look at -/

/-- A world with a workflow file. -/
def oneFile : World := { files := ({} : FileTree).put [defaultFile] (.file []) }

theorem contains_oneFile : Contains defaultFile .silent oneFile [] := ⟨by decide, rfl⟩

/-- What loading a file with a document comes to. -/
def loadedFrom (doc : Value) : Except Fault (Fields Workflow) :=
  ((load (fun _ => .ok doc) defaultFile).perform .silent oneFile).1

/-- A document in which only the second entry is a workflow. -/
def mixed : Value :=
  let step := Value.map [(.str "name", .str "a"), (.str "type", .str "human_approval")]
  .map [(.str "workflows", .map [(.str "u", .int 5), (.str "v", .map [(.str "steps", .list [step])]),
    (.str "x", .map [])])]

/-- The entries that are no workflows are reported, one after the other. -/
theorem load_entrywise_mixed :
    reported (loadedFrom mixed) = .ok
      [⟨"Workflow 'u' must be a dictionary", "workflows.u"⟩,
        ⟨"Workflow 'x': 'steps' must be a list", "workflows.x.steps"⟩] ∧
      ¬∃ found, loadedFrom mixed = .ok found := by
  obtain ⟨hreported, hloaded, -⟩ := @load_entrywise (fun _ => .ok mixed) _ _ _ _ _ _ _ _
    contains_oneFile rfl rfl rfl rfl (List.cons_ne_nil _ _)
  refine ⟨hreported.trans rfl, fun h => ?_⟩
  obtain ⟨found, hfound⟩ := hloaded.mp h _ List.mem_cons_self
  cases hfound

end Workflow

end StepFlow
