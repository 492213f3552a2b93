import ClrTypes.Proofs.Resolution.View

namespace ClrTypes.Context

def NamesLocal (ctx : Context) (s : Signature) : Prop :=
  ∃ token d, s.token? = some token ∧ ctx.typeOf? token = some d ∧ d.isLocal = true

def RefersToLocal (ctx : Context) (s : Signature) : Prop :=
  ∃ t, Signature.IsPartOf t s ∧ ctx.NamesLocal t

/-- The signature names a local type somewhere outside the bases of generic types. -/
def TracksLocal (ctx : Context) (s : Signature) : Prop :=
  ∃ t, Signature.IsOperandOf t s ∧ ctx.NamesLocal t

variable {ctx : Context} {scope : List Symbol}

theorem tracksLocal_iff {s : Signature} :
    ctx.TracksLocal s ↔ ctx.NamesLocal s ∨ ∃ u ∈ s.operands, ctx.TracksLocal u := by
  simp only [TracksLocal]
  constructor
  · rintro ⟨t, operand, named⟩
    rcases Signature.isOperandOf_iff.mp operand with rfl | ⟨u, member, inner⟩
    · exact .inl named
    · exact .inr ⟨u, member, t, inner, named⟩
  · rintro (named | ⟨u, member, t, inner, named⟩)
    · exact ⟨s, Signature.isOperandOf_iff.mpr (.inl rfl), named⟩
    · exact ⟨t, Signature.isOperandOf_iff.mpr (.inr ⟨u, member, inner⟩), named⟩

theorem refersToLocal_of_tracksLocal {s : Signature} (tracked : ctx.TracksLocal s) :
    ctx.RefersToLocal s := by
  obtain ⟨t, operand, named⟩ := tracked
  exact ⟨t, operand.isPartOf, named⟩

inductive Nominal (ctx : Context) (token : Token) : Resolved → Prop
  | known (n : Nat) {d : Definition} : ctx.typeOf? token = some d →
      Nominal ctx token ⟨.named n d, d.isLocal⟩
  | unknown (n : Nat) (cause : Option Fault) : ctx.typeOf? token = none →
      Nominal ctx token ⟨.unsupported n cause, false⟩

theorem resolveNominal_yields (ctx : Context) (token : Token) :
    Build.Yields (ctx.Nominal token) (ctx.resolveNominal token) := by
  unfold resolveNominal
  cases found : ctx.typeOf? token with
  | some d =>
      refine (Build.named_yields d).bind ?_
      rintro _ ⟨n, rfl⟩
      exact .pure (.known n found)
  | none =>
      have refused : Build.Yields (ctx.Nominal token)
          (do return ⟨← Build.unsupported (some (tokenFault token)), false⟩) := by
        refine (Build.unsupported_yields _).bind ?_
        rintro _ ⟨n, rfl⟩
        exact .pure (.unknown n _ found)
      cases token.isType
      · exact refused
      · exact .after fun _ => refused

theorem Nominal.flag {token : Token} {s : Signature} {r : Resolved} (result : ctx.Nominal token r)
    (named : s.token? = some token) (leaf : s.operands = []) :
    r.isLocal = true ↔ ctx.TracksLocal s := by
  rw [tracksLocal_iff]
  cases result with
  | known n found => simp [leaf, NamesLocal, named, found]
  | unknown n cause missing => simp [leaf, NamesLocal, named, missing]

theorem modified_flag {P : Bool → Prop} {r : Resolved} {make : List (Modifier Symbol) → Build Symbol}
    (flag : P r.isLocal) (modifiers : List ModifierToken) :
    Build.Yields (fun r => P r.isLocal)
      (do match ← ctx.resolveModifiers modifiers with
          | .ok modifiers => return { r with symbol := ← make modifiers }
          | .error symbol => return { r with symbol }) := by
  refine .after fun result => ?_
  cases result with
  | ok modifiers => exact .after fun _ => .pure flag
  | error symbol => exact .pure flag

theorem resolveEach_yields {P : Resolved → Signature → Prop} {depth : Nat}
    {arguments : List Signature}
    (each : ∀ a ∈ arguments, Build.Yields (fun r => P r a) (ctx.resolveAt scope depth a)) :
    Build.Yields (fun rs => List.Forall₂ P rs arguments)
      (ctx.resolveEach scope depth arguments) := by
  induction arguments with
  | nil => exact .pure .nil
  | cons a arguments ih =>
      rw [resolveEach]
      refine (each a List.mem_cons_self).bind fun r first => ?_
      refine (ih fun a member => each a (List.mem_cons_of_mem _ member)).bind fun rs rest => ?_
      exact .pure (.cons first rest)

theorem exists_mem_iff_of_forall₂ {α β : Type} {P : α → Prop} {Q : β → Prop} {xs : List α}
    {ys : List β} (pairs : List.Forall₂ (fun x y => P x ↔ Q y) xs ys) :
    (∃ x ∈ xs, P x) ↔ ∃ y ∈ ys, Q y := by
  induction pairs with
  | nil => simp
  | cons first _ ih => simp [first, ih]

theorem resolveAt_flag (s : Signature) {depth : Nat}
    (fits : depth + s.height ≤ ctx.config.signatureDepth) :
    Build.Yields (fun r => r.isLocal = true ↔ ctx.TracksLocal s)
      (ctx.resolveAt scope depth s) := by
  induction s using Signature.parts_induction generalizing depth with
  | made s ih =>
    have positive := s.height_pos
    have inside : depth < ctx.config.signatureDepth := by omega
    have inner (u : Signature) (member : u ∈ s.parts) : Build.Yields
        (fun r => r.isLocal = true ↔ ctx.TracksLocal u) (ctx.resolveAt scope (depth + 1) u) := by
      have lower := Signature.height_lt_of_mem_parts member
      exact ih u member (by omega)
    cases s with
    | element | parameter | invalid =>
        rw [resolveAt, within_eq inside, tracksLocal_iff]
        refine .after fun _ => .pure ?_
        simp [NamesLocal, Signature.token?, Signature.operands]
    | classType token | valueType token =>
        rw [resolveAt, within_eq inside]
        exact (ctx.resolveNominal_yields token).mono fun r result => result.flag rfl rfl
    | array | byRef =>
        rw [resolveAt, within_eq inside, tracksLocal_iff]
        refine (inner _ List.mem_cons_self).bind fun r flag => .after fun _ => .pure ?_
        simp [NamesLocal, Signature.token?, Signature.operands, flag]
    | pointer _ modifiers | szArray _ modifiers =>
        rw [resolveAt, within_eq inside, tracksLocal_iff]
        refine (inner _ List.mem_cons_self).bind fun r flag => ?_
        refine modified_flag (P := fun isLocal => isLocal = true ↔ _) ?_ modifiers
        simp [NamesLocal, Signature.token?, Signature.operands, flag]
    | generic base arguments =>
        rw [resolveAt, within_eq inside, tracksLocal_iff]
        refine .after fun generic => (resolveEach_yields fun a member =>
          inner a (List.mem_cons_of_mem _ member)).bind fun rs flags => .after fun _ => .pure ?_
        simp [NamesLocal, Signature.token?, Signature.operands, exists_mem_iff_of_forall₂ flags]

def Exposes (ctx : Context) (chain : List Definition) (arguments : List Signature)
    (P : Signature → Prop) : Prop :=
  ∃ i a, i < ctx.hierarchy.exposedCount chain ∧ arguments[i]? = some a ∧ P a

theorem Exposes.mono {chain : List Definition} {arguments : List Signature}
    {P Q : Signature → Prop} (exposed : ctx.Exposes chain arguments P) (weaker : ∀ a, P a → Q a) :
    ctx.Exposes chain arguments Q := by
  obtain ⟨i, a, inside, found, holds⟩ := exposed
  exact ⟨i, a, inside, found, weaker a holds⟩

theorem exposes_tracked_iff (chain : List Definition) (arguments : List Signature)
    (P : Signature → Prop) :
    (ctx.Exposes chain arguments (fun a => ctx.TracksLocal a ∨ P a) ↔
        ctx.Exposes chain arguments fun a => ctx.RefersToLocal a ∨ P a) ↔
      (ctx.Exposes chain arguments ctx.RefersToLocal →
        ctx.Exposes chain arguments fun a => ctx.TracksLocal a ∨ P a) := by
  constructor
  · intro same refers
    exact same.mpr (refers.mono fun _ => .inl)
  · intro tracks
    constructor
    · intro exposed
      exact exposed.mono fun _ => Or.imp_left refersToLocal_of_tracksLocal
    · rintro ⟨i, a, inside, found, refers | holds⟩
      · exact tracks ⟨i, a, inside, found, refers⟩
      · exact ⟨i, a, inside, found, .inr holds⟩

theorem reachesLinked_unnumbered {s t : Symbol} (same : s.unnumbered = t.unnumbered) :
    ctx.ReachesLinked s ↔ ctx.ReachesLinked t := by
  have closed : s.isClosedOver ctx.home.linked = t.isClosedOver ctx.home.linked := by
    rw [← Symbol.isClosedOver_unnumbered, same, Symbol.isClosedOver_unnumbered]
  rw [ReachesLinked, ReachesLinked, ← Symbol.isClosedOver_iff, ← Symbol.isClosedOver_iff, closed]

def Tracked (ctx : Context) (scope : List Symbol) (r : Resolved) (a : Signature) : Prop :=
  (r.isLocal = true ↔ ctx.TracksLocal a) ∧
    ∀ q, ctx.ReachesLinked r.symbol ↔ ctx.ReachesLinked ((ctx.resolve scope a).outcome q)

theorem resolveAt_tracked (a : Signature) {depth : Nat}
    (fits : depth + a.height ≤ ctx.config.signatureDepth) :
    Build.Yields (fun r => ctx.Tracked scope r a) (ctx.resolveAt scope depth a) := by
  intro p
  -- as an argument it stands deeper than on its own, which the limit leaves room for
  refine ⟨resolveAt_flag a fits p, fun q => reachesLinked_unnumbered ?_⟩
  exact ctx.resolveAt_unnumbered scope a (.shallow fits (by omega)) p q

theorem checked_at_iff {rs : List Resolved} {arguments : List Signature} (q : Progress)
    (tracked : List.Forall₂ (ctx.Tracked scope) rs arguments) (i : Nat) :
    (∃ s, (rs.map (·.symbol))[i]? = some s ∧
      ((rs.map (·.isLocal))[i]?.getD false = true ∨ ctx.ReachesLinked s)) ↔
    ∃ a, arguments[i]? = some a ∧
      (ctx.TracksLocal a ∨ ctx.ReachesLinked ((ctx.resolve scope a).outcome q)) := by
  induction tracked generalizing i with
  | nil => simp
  | cons first _ ih =>
      cases i with
      | zero => simp [first.1, first.2 q]
      | succ i => simpa using ih i

theorem resolveAt_nominal {base : Signature} {token : Token} (named : base.token? = some token)
    {depth : Nat} (inside : depth < ctx.config.signatureDepth) :
    Build.Yields (ctx.Nominal token) (ctx.resolveAt scope depth base) := by
  cases base with
  | classType t | valueType t =>
      obtain rfl := Option.some.inj named
      rw [resolveAt, within_eq inside]
      exact ctx.resolveNominal_yields t
  | _ => simp [Signature.token?] at named

theorem resolve_generic_yields {base : Signature} {token : Token} {arguments : List Signature}
    (named : base.token? = some token)
    (fits : (Signature.generic base arguments).height ≤ ctx.config.signatureDepth) :
    Build.Yields (fun s => ∃ generic rs, ctx.Nominal token generic ∧
        List.Forall₂ (ctx.Tracked scope) rs arguments ∧
        ctx.Instantiated generic.symbol (rs.map (·.symbol)) (rs.map (·.isLocal)) s)
      (ctx.resolve scope (.generic base arguments)) := by
  have lower (u : Signature) (member : u ∈ (Signature.generic base arguments).parts) :
      1 + u.height ≤ ctx.config.signatureDepth := by
    have step := Signature.height_lt_of_mem_parts member
    omega
  have deep : 1 < ctx.config.signatureDepth := by
    have positive := base.height_pos
    have room := lower base List.mem_cons_self
    omega
  rw [resolve, resolveAt, within_eq (Nat.lt_trans Nat.one_pos deep)]
  refine Build.Yields.bind ?_ fun r (known : ∃ generic rs, ctx.Nominal token generic ∧
    List.Forall₂ (ctx.Tracked scope) rs arguments ∧ ctx.Instantiated generic.symbol
      (rs.map (·.symbol)) (rs.map (·.isLocal)) r.symbol) => .pure known
  refine (resolveAt_nominal named deep).bind fun generic nominal => ?_
  refine (resolveEach_yields fun a member =>
    resolveAt_tracked a (lower a (List.mem_cons_of_mem _ member))).bind fun rs tracked => ?_
  refine (ctx.instantiate_yields _ _ _).bind fun s result => .pure ?_
  exact ⟨generic, rs, nominal, tracked, result⟩

/-- Where the check is on, a generic signature leads to a marked type exactly if an exposed argument
tracks a local type or reaches a linked assembly. Bases of generic types are not tracked, so this is
not the same as to refer to a local type anywhere; the last part says when it is. -/
theorem resolve_marks {ctx : Context} (checks : ctx.config.checksInterop = true)
    (sees : ctx.home.linked ≠ [] ∨ ctx.home.hasLocalTypes = true) {base : Signature}
    {token : Token} (named : base.token? = some token) (scope : List Symbol)
    (arguments : List Signature) (p q : Progress)
    (fits : (Signature.generic base arguments).height ≤ ctx.config.signatureDepth)
    (built : ((ctx.resolve scope (.generic base arguments)).outcome p).stripped.isConstructed =
      true) :
    ∃ d chain, ctx.typeOf? token = some d ∧ ctx.hierarchy.IsChain d chain ∧
      (((ctx.resolve scope (.generic base arguments)).outcome p).isIllegal = true ↔
        ctx.Exposes chain arguments fun a =>
          ctx.TracksLocal a ∨ ctx.ReachesLinked ((ctx.resolve scope a).outcome q)) ∧
      ((((ctx.resolve scope (.generic base arguments)).outcome p).isIllegal = true ↔
        ctx.Exposes chain arguments fun a =>
          ctx.RefersToLocal a ∨ ctx.ReachesLinked ((ctx.resolve scope a).outcome q)) ↔
        (ctx.Exposes chain arguments ctx.RefersToLocal →
          ctx.Exposes chain arguments fun a =>
            ctx.TracksLocal a ∨ ctx.ReachesLinked ((ctx.resolve scope a).outcome q))) := by
  obtain ⟨generic, rs, origin, tracked, result⟩ := resolve_generic_yields named fits p
  cases origin with
  | unknown n cause missing =>
      obtain ⟨d, chain, nominal, -⟩ := result.chained rfl built
      simp [Symbol.definition?] at nominal
  | @known n d found =>
      obtain ⟨_, chain, nominal, chained⟩ := result.chained rfl built
      obtain rfl := Option.some.inj nominal
      have gate : ctx.interopGate = true := ctx.interopGate_iff.mpr ⟨checks, sees⟩
      have marked : ((ctx.resolve scope (.generic base arguments)).outcome p).isIllegal = true ↔
          ctx.Exposes chain arguments fun a =>
            ctx.TracksLocal a ∨ ctx.ReachesLinked ((ctx.resolve scope a).outcome q) := by
        rw [isIllegal_of_instantiated nominal chained result built, Exposes]
        simp only [gate, true_and, exists_and_left]
        exact exists_congr fun i => and_congr_right fun _ => checked_at_iff q tracked i
      refine ⟨_, chain, found, chained, marked, ?_⟩
      rw [marked]
      exact exposes_tracked_iff chain arguments _

theorem resolve_box_of_lenses_marked : ((Sample.context.resolve []
    (.generic (.classType Sample.box.token)
      [.szArray (.classType Sample.lens.token) []])).outcome {}).isIllegal = true := by
  have checks : Sample.context.config.checksInterop = true := rfl
  have named : (Signature.classType Sample.box.token).token? = some Sample.box.token := rfl
  obtain ⟨d, chain, known, chained, marked, -⟩ := resolve_marks checks (.inr rfl) named []
    [.szArray (.classType Sample.lens.token) []] {} {} (by decide) (by decide)
  obtain rfl : Sample.box = d := Option.some.inj known
  obtain rfl : chain = [Sample.box] := chained.unique (.outermost rfl)
  have tracked : Sample.context.TracksLocal (.szArray (.classType Sample.lens.token) []) :=
    tracksLocal_iff.mpr (.inr ⟨_, List.mem_cons_self,
      tracksLocal_iff.mpr (.inl ⟨_, Sample.lens, rfl, rfl, rfl⟩)⟩)
  exact marked.mpr ⟨0, _, by decide, rfl, .inl tracked⟩

/-- `Box<Lens<Point>>` is not marked, although its argument refers to the local type `Lens`. -/
theorem resolve_box_of_lens_unmarked :
    let argument : Signature :=
      .generic (.classType Sample.lens.token) [.classType Sample.point.token]
    let whole : Signature := .generic (.classType Sample.box.token) [argument]
    let symbol := (Sample.context.resolve [] whole).outcome {}
    Sample.context.interopGate = true ∧ whole.height ≤ Sample.context.config.signatureDepth ∧
      symbol.stripped.isConstructed = true ∧
      Sample.context.hierarchy.IsChain Sample.box [Sample.box] ∧
      Sample.context.Exposes [Sample.box] [argument] Sample.context.RefersToLocal ∧
      symbol.isIllegal = false := by
  intro argument whole symbol
  have refers : Sample.context.RefersToLocal argument :=
    ⟨.classType Sample.lens.token, Signature.IsPartOf.inner (.refl _) List.mem_cons_self,
      _, Sample.lens, rfl, rfl, rfl⟩
  exact ⟨rfl, by decide, by decide, .outermost rfl, ⟨0, argument, by decide, rfl, refers⟩,
    by decide⟩

end ClrTypes.Context
