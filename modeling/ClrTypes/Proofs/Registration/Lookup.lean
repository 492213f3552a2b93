import ClrTypes.Proofs.Instantiation
import ClrTypes.Proofs.Naming
import ClrTypes.Proofs.Registration
import Mathlib.Data.List.Induction

/-!
# Finding definitions by name

A definition is found by the full name that it had when it was registered. While containers are
recorded and dropped in any order, all definitions are found by their present names exactly as long
as no container appears or disappears around a definition that is registered already.
-/

namespace ClrTypes

inductive LoadCall where
  | register (definition : Definition) (progress : Progress)
  | nest (definition container : Definition)
  | drop (container : Definition)

structure Loading where
  history : History
  hierarchy : Hierarchy

namespace Loading

def start (assembly : Assembly) (linked : List Assembly) (declared : Bool) (h : Hierarchy) :
    Loading :=
  ⟨.start assembly linked declared, h⟩

def step (σ : Loading) : LoadCall → Loading
  | .register d p => { σ with history := σ.history.offer ⟨σ.hierarchy, p, d⟩ }
  | .nest d container =>
    match σ.hierarchy.setContainer d container with
    | .ok h => { σ with hierarchy := h }
    | .error _ => σ
  | .drop container =>
    -- the module owns what is registered with it
    if ∃ e ∈ σ.history.home.definitions, e.serial = container.serial then σ
    else { σ with hierarchy := σ.hierarchy.drop container }

def run (σ : Loading) (calls : List LoadCall) : Loading :=
  calls.foldl step σ

/-- All registered definitions are found by their present full names, and under no others. -/
structure FindsByName (σ : Loading) : Prop where
  complete : ∀ d ∈ σ.history.home.definitions,
    d ∈ σ.history.home.named (σ.hierarchy.fullName d)
  sound : ∀ fullName, ∀ d ∈ σ.history.home.named fullName, σ.hierarchy.fullName d = fullName

/-- A container that exists is accepted around a registered definition, or is dropped from around
one, and the definition does not keep a bare name. -/
def IsLate (σ : Loading) : LoadCall → Prop
  | .register _ _ => False
  | .nest d container =>
    ∃ h, σ.hierarchy.setContainer d container = .ok h ∧ container.serial ∉ σ.hierarchy.gone ∧
      ∃ e ∈ σ.history.home.definitions, σ.hierarchy.IsInside e d ∧
        ¬ (h.TooDeep namingDepth e ∧ σ.hierarchy.fullName e = e.name)
  | .drop container =>
    (∀ e ∈ σ.history.home.definitions, e.serial ≠ container.serial) ∧
      ∃ e ∈ σ.history.home.definitions, σ.hierarchy.IsNestedIn e container ∧
        ¬ (σ.hierarchy.TooDeep namingDepth e ∧
          (σ.hierarchy.drop container).fullName e = e.name)

variable {σ : Loading} {assembly : Assembly} {declared : Bool}

theorem step_records (records : σ.history.Records assembly declared) (call : LoadCall) :
    (σ.step call).history.Records assembly declared := by
  cases call with
  | register d p => exact records.offer _
  | nest d container =>
      simp only [step]
      split <;> exact records
  | drop container =>
      simp only [step]
      split <;> exact records

theorem run_records (records : σ.history.Records assembly declared) (calls : List LoadCall) :
    (σ.run calls).history.Records assembly declared := by
  induction calls generalizing σ with
  | nil => exact records
  | cons call calls ih => exact ih (step_records records call)

theorem findsByName_iff (records : σ.history.Records assembly declared) : σ.FindsByName ↔
    ∀ a ∈ σ.history.accepted, a.fullName = σ.hierarchy.fullName a.definition := by
  constructor
  · intro finds a accepted
    have found := records.mem_named_iff.mpr ⟨a, accepted, rfl, rfl⟩
    exact (finds.sound a.fullName a.definition found).symm
  · intro current
    constructor
    · intro d member
      obtain ⟨a, accepted, rfl⟩ := records.mem_definitions_iff.mp member
      exact records.mem_named_iff.mpr ⟨a, accepted, current a accepted, rfl⟩
    · intro fullName d found
      obtain ⟨a, accepted, rfl, rfl⟩ := records.mem_named_iff.mp found
      exact (current a accepted).symm

theorem register_findsByName (records : σ.history.Records assembly declared)
    (finds : σ.FindsByName) (d : Definition) (p : Progress) :
    (σ.step (.register d p)).FindsByName := by
  obtain ⟨-, refused⟩ | ⟨m, -, -, -, next⟩ := σ.history.offer_cases ⟨σ.hierarchy, p, d⟩
  · rw [step, History.offer_refused refused]
    exact finds
  · rw [findsByName_iff (step_records records _), step, next]
    intro a member
    rcases List.mem_append.mp member with old | new
    · exact (findsByName_iff records).mp finds a old
    · obtain rfl := List.mem_singleton.mp new
      rfl

theorem relink_findsByName_iff (records : σ.history.Records assembly declared)
    (finds : σ.FindsByName) (h : Hierarchy) :
    FindsByName { σ with hierarchy := h } ↔
      ∀ e ∈ σ.history.home.definitions, h.fullName e = σ.hierarchy.fullName e := by
  have relinked : ({ σ with hierarchy := h } : Loading).history.Records assembly declared := records
  rw [findsByName_iff relinked]
  rw [findsByName_iff records] at finds
  constructor
  · intro current e member
    obtain ⟨a, accepted, rfl⟩ := records.mem_definitions_iff.mp member
    exact (current a accepted).symm.trans (finds a accepted)
  · intro same a accepted
    rw [finds a accepted]
    exact (same _ (records.mem_definitions_iff.mpr ⟨a, accepted, rfl⟩)).symm

theorem nest_findsByName_iff (records : σ.history.Records assembly declared)
    (finds : σ.FindsByName) (d container : Definition) :
    (σ.step (.nest d container)).FindsByName ↔ ¬ σ.IsLate (.nest d container) := by
  cases recorded : σ.hierarchy.setContainer d container with
  | error fault =>
      have unchanged : σ.step (.nest d container) = σ := by simp only [step, recorded]
      rw [unchanged]
      exact iff_of_true finds fun ⟨h, accepted, _⟩ => by simp [recorded] at accepted
  | ok h =>
      have next : σ.step (.nest d container) = { σ with hierarchy := h } := by
        simp only [step, recorded]
      have renamed := (Hierarchy.isCutFrom_setContainer recorded).fullName_eq_iff
      simp only [Hierarchy.isCutShort_setContainer_iff recorded] at renamed
      rw [next, relink_findsByName_iff records finds]
      constructor
      · rintro same ⟨h', recorded', present, e, member, inside, other⟩
        obtain rfl := Except.ok.inj (recorded.symm.trans recorded')
        exact other ((renamed e).mp (same e member) ⟨present, inside⟩)
      · intro timely e member
        refine (renamed e).mpr fun ⟨present, inside⟩ => ?_
        exact Classical.byContradiction fun other =>
          timely ⟨h, recorded, present, e, member, inside, other⟩

theorem drop_findsByName_iff (records : σ.history.Records assembly declared)
    (finds : σ.FindsByName) (container : Definition) :
    (σ.step (.drop container)).FindsByName ↔ ¬ σ.IsLate (.drop container) := by
  by_cases owned : ∃ e ∈ σ.history.home.definitions, e.serial = container.serial
  · have unchanged : σ.step (.drop container) = σ := if_pos owned
    rw [unchanged]
    obtain ⟨e, member, same⟩ := owned
    exact iff_of_true finds fun ⟨free, _⟩ => free e member same
  · have next : σ.step (.drop container) = { σ with hierarchy := σ.hierarchy.drop container } :=
      if_neg owned
    have free : ∀ e ∈ σ.history.home.definitions, e.serial ≠ container.serial :=
      fun e member same => owned ⟨e, member, same⟩
    have renamed := (σ.hierarchy.isCutFrom_drop container).fullName_eq_iff
    simp only [Hierarchy.isCutShort_drop_iff] at renamed
    rw [next, relink_findsByName_iff records finds]
    constructor
    · rintro same ⟨-, e, member, inside, other⟩
      exact other ((renamed e).mp (same e member).symm inside)
    · intro timely e member
      refine ((renamed e).mpr fun inside => ?_).symm
      exact Classical.byContradiction fun other => timely ⟨free, e, member, inside, other⟩

theorem step_findsByName_iff (records : σ.history.Records assembly declared)
    (finds : σ.FindsByName) (call : LoadCall) :
    (σ.step call).FindsByName ↔ ¬ σ.IsLate call := by
  cases call with
  | register d p => exact iff_of_true (register_findsByName records finds d p) not_false
  | nest d container => exact nest_findsByName_iff records finds d container
  | drop container => exact drop_findsByName_iff records finds container

theorem forall_prefix_concat {α : Type} {P : List α → α → Prop} {xs : List α} {x : α} :
    (∀ ys y, ys ++ [y] <+: xs ++ [x] → P ys y) ↔ (∀ ys y, ys ++ [y] <+: xs → P ys y) ∧ P xs x := by
  constructor
  · intro all
    refine ⟨fun ys y early => ?_, all xs x List.prefix_rfl⟩
    exact all ys y (early.trans (List.prefix_append _ _))
  · rintro ⟨before, last⟩ ys y early
    rcases List.prefix_concat_iff.mp early with whole | early
    · obtain ⟨rfl, same⟩ := List.append_inj' whole rfl
      obtain rfl := List.singleton_inj.mp same
      exact last
    · exact before ys y early

/-- Throughout a run all definitions are found by their present names exactly if no container in it
comes or goes late. -/
theorem run_findsByName_iff (assembly : Assembly) (linked : List Assembly) (declared : Bool)
    (h : Hierarchy) (calls : List LoadCall) :
    (∀ earlier, earlier <+: calls → ((start assembly linked declared h).run earlier).FindsByName) ↔
      ∀ earlier call, earlier ++ [call] <+: calls →
        ¬ ((start assembly linked declared h).run earlier).IsLate call := by
  have start_records : (start assembly linked declared h).history.Records assembly declared :=
    .start assembly linked declared
  induction calls using List.reverseRecOn with
  | nil =>
      refine iff_of_true ?_ fun earlier call early => by simp at early
      intro earlier early
      obtain rfl := List.prefix_nil.mp early
      exact (findsByName_iff start_records).mpr fun _ member => absurd member List.not_mem_nil
  | append_singleton calls call ih =>
      have last : (start assembly linked declared h).run (calls ++ [call]) =
          ((start assembly linked declared h).run calls).step call := List.foldl_append
      refine Iff.trans ?_ (forall_prefix_concat.trans (and_congr_left' ih.symm)).symm
      simp only [List.prefix_concat_iff, or_imp, forall_and, forall_eq, last]
      rw [and_comm]
      refine and_congr_right fun before => ?_
      -- the last call is judged in a state where all definitions are found
      have finds := before calls List.prefix_rfl
      exact step_findsByName_iff (run_records start_records calls) finds call

/-- `View` is registered before its container is recorded: it is still found as `Sample.View` and
not by its full name. -/
theorem run_view_late :
    let σ := (start Sample.context.home.assembly [] false .empty).run
      [.register Sample.box {}, .register Sample.view {}, .nest Sample.view Sample.box]
    Sample.view ∈ σ.history.home.definitions ∧
      σ.hierarchy.fullName Sample.view = "Sample.Box+View" ∧
      σ.history.home.named "Sample.Box+View" = [] ∧
      σ.history.home.named "Sample.View" = [Sample.view] := by
  refine ⟨?_, ?_, ?_, ?_⟩
  · exact .tail _ (.head _)
  · decide
  · rfl
  · rfl

end Loading

end ClrTypes
