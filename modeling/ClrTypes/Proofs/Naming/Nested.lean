import ClrTypes.Proofs.Instantiation
import ClrTypes.Proofs.Naming

namespace ClrTypes.Hierarchy

variable {h : Hierarchy} {d c : Definition} {chain : List Definition}

theorem fullName_outermost (top : h.container? d = none) : h.fullName d = d.qualifiedName := by
  have alone : h.IsChain d [d] := .outermost top
  rw [fullName_of_isChain alone (by decide)]
  rfl

theorem fullName_nested (inside : h.container? d = some c) (chained : h.IsChain d chain)
    (short : chain.length ≤ namingDepth) : h.fullName d = h.fullName c ++ "+" ++ d.name := by
  cases chained with
  | outermost top => simp [top] at inside
  | nested inside' rest =>
      rw [inside, Option.some.injEq] at inside'
      subst inside'
      obtain ⟨outer, rfl⟩ := rest.eq_cons
      have room : (c :: outer).length < namingDepth := short
      have roomier : outer.length < namingDepth := Nat.lt_of_succ_lt room
      have around : h.IsChain d (d :: c :: outer) := .nested inside rest
      rw [fullName_of_isChain around room, fullName_of_isChain rest roomier]
      exact nameWithin_cons d c outer

theorem intercalate_concat (first : String) (names : List String) (last : String) :
    "+".intercalate (first :: (names ++ [last])) =
      "+".intercalate (first :: names) ++ "+" ++ last := by
  rw [← List.cons_append, String.intercalate_append_of_ne_nil (by simp) (by simp),
    String.intercalate_singleton]

theorem IsChain.container {e : Definition} {outer : List Definition}
    (chained : h.IsChain d (e :: outer)) (more : outer ≠ []) :
    e = d ∧ ∃ c, h.container? d = some c ∧ h.IsChain c outer := by
  cases chained with
  | outermost => exact absurd rfl more
  | nested inside rest => exact ⟨rfl, _, inside, rest⟩

theorem fullName_chain {inner : List Definition} {outermost : Definition}
    (chained : h.IsChain d (inner ++ [outermost])) (short : inner.length < namingDepth) :
    h.fullName d = "+".intercalate (outermost.qualifiedName :: inner.reverse.map (·.name)) := by
  induction inner generalizing d with
  | nil =>
      cases chained with
      | outermost top => simp [fullName_outermost top]
      | nested _ rest => cases rest
  | cons e inner ih =>
      obtain ⟨rfl, c, inside, rest⟩ := chained.container (by simp)
      have bound : (e :: inner ++ [outermost]).length ≤ namingDepth := by
        rw [List.length_append]
        exact short
      rw [fullName_nested inside chained bound, ih rest (Nat.lt_of_succ_lt short),
        List.reverse_cons, List.map_append]
      exact (intercalate_concat _ _ _).symm

/-- A nested definition is named after its container as long as the chain holds at most 64
definitions, and bare beyond that, or if the chain runs into a cycle. -/
theorem fullName_follows (h : Hierarchy) :
    (∀ d c chain, h.container? d = some c → h.IsChain d chain → chain.length ≤ 64 →
      h.fullName d = h.fullName c ++ "+" ++ d.name) ∧
    (∀ d, h.container? d = none →
      h.fullName d = if d.space = "" then d.name else d.space ++ "." ++ d.name) ∧
    (∀ d inner outermost, h.IsChain d (inner ++ [outermost]) → inner.length < 64 →
      h.fullName d =
        "+".intercalate (outermost.qualifiedName :: inner.reverse.map (·.name))) ∧
    (∀ d, (∀ chain, h.IsChain d chain → 64 < chain.length) → h.fullName d = d.name) ∧
    ∀ d c, Relation.ReflTransGen (fun a b => h.container? a = some b) d c →
      Relation.TransGen (fun a b => h.container? a = some b) c c → h.fullName d = d.name := by
  refine ⟨?nested, ?outermost, ?whole, ?long, ?cyclic⟩
  case nested => exact fun d c chain inside chained short => fullName_nested inside chained short
  case outermost =>
    intro d top
    rw [fullName_outermost top, Definition.qualifiedName]
    simp only [String.isEmpty_iff]
  case whole => exact fun d inner outermost chained short => fullName_chain chained short
  case long => exact fun d deep => fullName_of_tooDeep deep
  case cyclic =>
    intro d c walk cycle
    exact fullName_of_tooDeep (tooDeep_of_cycle namingDepth (.trans_right walk cycle) cycle)

theorem fullName_view :
    let cyclic : Hierarchy :=
      { entries := [(Sample.view.serial, { container := some Sample.box }),
        (Sample.box.serial, { container := some Sample.view })] }
    Sample.context.hierarchy.fullName Sample.box = "Sample.Box" ∧
      Sample.context.hierarchy.fullName Sample.view =
        Sample.context.hierarchy.fullName Sample.box ++ "+" ++ "View" ∧
      Sample.view.space = "Sample" ∧
      cyclic.fullName Sample.view = "View" := by
  intro cyclic
  have chained : Sample.context.hierarchy.IsChain Sample.view [Sample.view, Sample.box] :=
    .nested rfl (.outermost rfl)
  obtain ⟨nested, outermost, -⟩ := fullName_follows Sample.context.hierarchy
  obtain ⟨-, -, -, -, bare⟩ := fullName_follows cyclic
  have around : Relation.TransGen (fun a b => cyclic.container? a = some b)
      Sample.view Sample.view := .tail (.single (b := Sample.box) rfl) rfl
  refine ⟨outermost _ rfl, nested _ _ _ rfl chained (by decide), rfl, ?_⟩
  exact bare _ _ .refl around

end ClrTypes.Hierarchy
