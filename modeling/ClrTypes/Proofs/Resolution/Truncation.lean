import ClrTypes.Proofs.Resolution.View

namespace ClrTypes

def Context.withDepth (ctx : Context) (limit : Nat) : Context :=
  { ctx with config := { ctx.config with signatureDepth := limit } }

namespace Symbol

theorem sameTree_of_seenAlike {s t : Symbol} (alike : SeenAlike (bare true) (bare true) s t) :
    s.SameTree t :=
  sameTree_of_unnumbered alike.1

end Symbol

namespace Context

variable {ctx : Context} {scope : List Symbol} {limit limit' : Nat} {s s' : Signature}

theorem resolve_aligned
    (aligned : Aligned (ctx.withDepth limit) (ctx.withDepth limit') 0 0 s s') :
    Build.Relates Symbol.SameTree ((ctx.withDepth limit).resolve scope s)
      ((ctx.withDepth limit').resolve scope s') := by
  have sim := unnumbered_simulates (ctx.withDepth limit) (ctx.withDepth limit') scope rfl rfl rfl rfl
  exact (sim.resolve aligned fun _ _ => trivial).mono fun _ _ => Symbol.sameTree_of_seenAlike

/-- Resolving under a limit is resolving under any larger one what remains of the signature when it
is cut off there. So two limits make no difference to a signature that stays within both. -/
theorem resolve_truncate (ctx : Context) (scope : List Symbol) (s : Signature) :
    (∀ limit limit', limit < limit' → ∀ p q, Symbol.SameTree
      (((ctx.withDepth limit).resolve scope s).outcome p)
      (((ctx.withDepth limit').resolve scope
        (s.truncate (.recursionLimit limit) limit)).outcome q)) ∧
    ∀ limit limit', s.height ≤ limit → s.height ≤ limit' → ∀ p q, Symbol.SameTree
      (((ctx.withDepth limit).resolve scope s).outcome p)
      (((ctx.withDepth limit').resolve scope s).outcome q) := by
  constructor
  · intro limit limit' larger
    have room : 0 + limit = limit := Nat.zero_add limit
    have more : 0 + limit < limit' := room.symm ▸ larger
    exact resolve_aligned (.cut limit room more)
  · intro limit limit' fits fits'
    have within : 0 + s.height ≤ limit := (Nat.zero_add _).symm ▸ fits
    have within' : 0 + s.height ≤ limit' := (Nat.zero_add _).symm ▸ fits'
    exact resolve_aligned (.shallow within within')

theorem resolve_box_of_reference_truncated :
    let box (inner : Signature) : Signature :=
      .generic (.classType Sample.box.token) [.byRef inner]
    let whole := box (.classType Sample.point.token)
    2 < 100 ∧ Symbol.SameTree (((Sample.context.withDepth 2).resolve [] whole).outcome {})
        (((Sample.context.withDepth 100).resolve []
          (box (.invalid (.recursionLimit 2)))).outcome {}) ∧
      whole.height ≤ 3 ∧ Symbol.SameTree
        (((Sample.context.withDepth 3).resolve [] whole).outcome {})
        (((Sample.context.withDepth 100).resolve [] whole).outcome {}) := by
  intro box whole
  obtain ⟨cut, complete⟩ := resolve_truncate Sample.context [] whole
  refine ⟨by decide, cut 2 100 (by decide) {} {}, by decide, ?_⟩
  exact complete 3 100 (by decide) (by decide) {} {}

end Context

end ClrTypes
