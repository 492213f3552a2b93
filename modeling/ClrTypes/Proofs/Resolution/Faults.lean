import ClrTypes.Proofs.Resolution.Legality

/-!
# Faults that show

What is wrong with a signature shows in what it resolves to, save for one place: the base of a generic
type that leads to a type which already has arguments. These are dropped for the new ones, and
with them the faults that they hold.
-/

namespace ClrTypes

namespace Symbol

def HoldsFault (s : Symbol) : Prop :=
  ∃ t, IsPartOf t s ∧ t.isUnsupported = true

variable {s u : Symbol}

theorem holdsFault_iff :
    s.HoldsFault ↔ s.isUnsupported = true ∨ ∃ u ∈ s.parts, u.HoldsFault := by
  constructor
  · rintro ⟨t, part, fault⟩
    rcases isPartOf_iff.mp part with rfl | ⟨u, member, inner⟩
    · exact .inl fault
    · exact .inr ⟨u, member, t, inner, fault⟩
  · rintro (fault | ⟨u, member, t, inner, fault⟩)
    · exact ⟨s, .refl s, fault⟩
    · exact ⟨t, inner.inner member, fault⟩

theorem holdsFault_unsupported (n : Nat) (cause : Option Fault) :
    (unsupported n cause).HoldsFault :=
  holdsFault_iff.mpr (.inl rfl)

theorem not_holdsFault_named (n : Nat) (d : Definition) : ¬ (named n d).HoldsFault := by
  rw [holdsFault_iff]
  simp [isUnsupported, parts]

theorem holdsFault_of_operand (single : s.parts = [u]) (built : s.isUnsupported = false) :
    s.HoldsFault ↔ u.HoldsFault := by
  rw [holdsFault_iff, single, built]
  simp

theorem holdsFault_stripped (s : Symbol) : s.HoldsFault ↔ s.stripped.HoldsFault := by
  cases s with
  | illegal n s => exact holdsFault_of_operand rfl rfl
  | _ => rfl

end Symbol

namespace Build

variable {s : Symbol}

theorem unsupported_holdsFault (cause : Option Fault) :
    Yields Symbol.HoldsFault (unsupported cause) :=
  (unsupported_yields cause).mono fun _ ⟨n, same⟩ => same ▸ Symbol.holdsFault_unsupported n cause

theorem Formed.holdsFault {make : Nat → Symbol} {t : Symbol} (result : Formed s make t)
    (single : ∀ n, (make n).parts = [s]) (built : ∀ n, (make n).isUnsupported = false) :
    t.HoldsFault ↔ s.HoldsFault := by
  cases result with
  | forwarded => exact Iff.rfl
  | formed n => exact Symbol.holdsFault_of_operand (single n) (built n)

theorem pointer_holdsFault (s : Symbol) (modifiers : List (Modifier Symbol)) :
    Yields (fun t => t.HoldsFault ↔ s.HoldsFault) (pointer s modifiers) :=
  (pointer_yields s modifiers).mono fun _ result => result.holdsFault (fun _ => rfl) fun _ => rfl

theorem szArray_holdsFault (s : Symbol) (modifiers : List (Modifier Symbol)) :
    Yields (fun t => t.HoldsFault ↔ s.HoldsFault) (szArray s modifiers) :=
  (szArray_yields s modifiers).mono fun _ result => result.holdsFault (fun _ => rfl) fun _ => rfl

theorem byRef_holdsFault (s : Symbol) :
    Yields (fun t => t.HoldsFault ↔ s.HoldsFault) (byRef s) :=
  .after fun _ => .pure (Symbol.holdsFault_of_operand rfl rfl)

theorem array_holdsFault (h : Hierarchy) (s : Symbol) (rank : UInt32)
    (dimensions : List Dimension) :
    Yields (fun t => t.HoldsFault ↔ rank.toNat < 2 ∨ s.HoldsFault)
      (array h s rank dimensions []) := by
  refine (array_yields h s rank dimensions []).mono fun t result => ?_
  cases result with
  | refused n cause low => exact iff_of_true (Symbol.holdsFault_unsupported n cause) (.inl low)
  | made high result =>
      rw [or_iff_right (Nat.not_lt.mpr high)]
      exact result.holdsFault (fun _ => rfl) fun _ => rfl

end Build

theorem Module.special_holdsFault {m : Module} (loaded : m.IsLoaded) (type : SpecialType) :
    Build.Yields (fun s => s.HoldsFault ↔ m.specials.lookup type = none) (m.special type) := by
  unfold special
  cases found : m.specials.lookup type with
  | none => exact (Build.unsupported_holdsFault _).mono fun s fault => iff_of_true fault rfl
  | some symbol =>
      obtain ⟨n, d, rfl⟩ := loaded.keepsPlain.special type symbol found
      exact .pure (iff_of_false (Symbol.not_holdsFault_named n d) nofun)

namespace Context

variable {ctx : Context} {scope : List Symbol} {depth : Nat} {s base : Signature}
  {arguments : List Signature}

theorem instantiate_holdsFault (ctx : Context) (generic : Symbol) (symbols : List Symbol)
    (flags : List Bool) : Build.Yields
      (fun t => t.HoldsFault ↔ ¬ ctx.Takes symbols.length generic.definition? ∨
        (∃ a ∈ symbols, a.HoldsFault) ∨ symbols = [] ∧ generic.HoldsFault)
      (ctx.instantiate generic symbols flags) := by
  refine (ctx.instantiate_yields generic symbols flags).mono fun t result => ?_
  cases result with
  | refused n cause reason =>
      refine iff_of_true (Symbol.holdsFault_unsupported n cause) ?_
      rcases reason with ⟨a, member, fault⟩ | mismatch
      · exact .inr (.inl ⟨a, member, Symbol.holdsFault_iff.mpr (.inl fault)⟩)
      · exact .inl mismatch
  | kept rest =>
      by_cases poisoned : generic.isUnsupported = true
      · have fault : generic.HoldsFault := Symbol.holdsFault_iff.mpr (.inl poisoned)
        have unnamed : generic.definition? = none := by
          cases generic <;> simp_all [Symbol.isUnsupported, Symbol.definition?]
        simp only [fault, unnamed, Takes, List.length_eq_zero_iff, and_true, true_iff]
        by_cases none : symbols = []
        · exact .inr (.inr none)
        · exact .inl none
      · obtain ⟨rfl, formals⟩ := rest (by simpa using poisoned)
        have takes : ctx.Takes 0 generic.definition? := by
          cases named : generic.definition? with
          | none => rfl
          | some d => exact ⟨[], formals d named, rfl⟩
        simp [takes]
  | @built d formals s n named walked some arity _ stripped =>
      have takes : ctx.Takes symbols.length generic.definition? := by
        rw [named]
        exact ⟨formals, walked, arity⟩
      have nonempty : symbols ≠ [] := by
        rintro rfl
        exact some (List.length_eq_zero_iff.mp arity)
      rw [Symbol.holdsFault_stripped, stripped, Symbol.holdsFault_iff]
      simp [takes, nonempty, Symbol.parts, Binding.arguments_align arity, Symbol.isUnsupported]

/-- Something is wrong at the root of the signature, apart from the number of arguments of a generic
type. -/
def IsDefective (ctx : Context) (scope : List Symbol) : Signature → Prop
  | .element type => ctx.home.specials.lookup type.special = none
  | .classType token | .valueType token => ctx.typeOf? token = none
  | .parameter i => scope.length ≤ i.toNat
  | .pointer _ modifiers | .szArray _ modifiers => ∃ m ∈ modifiers, ctx.typeOf? m.token = none
  | .array _ rank _ => rank.toNat < 2
  | .invalid _ => True
  | .byRef _ | .generic .. => False

def head? (ctx : Context) (scope : List Symbol) : Signature → Option Definition
  | .element type => (ctx.home.specials.lookup type.special).bind (·.definition?)
  | .classType token | .valueType token => ctx.typeOf? token
  | .parameter i => scope[i.toNat]?.bind (·.stripped.definition?)
  | .generic base _ => head? ctx scope base
  | .pointer .. | .szArray .. | .array .. | .byRef _ | .invalid _ => none

/-- Something is wrong at the root or at a part of the signature, which stands at a given depth. -/
inductive HasFault (ctx : Context) (scope : List Symbol) : Nat → Signature → Prop
  | deep {depth : Nat} {s : Signature} : ctx.config.signatureDepth ≤ depth →
      HasFault ctx scope depth s
  | root {depth : Nat} {s : Signature} : ctx.IsDefective scope s → HasFault ctx scope depth s
  | arity {depth : Nat} {base : Signature} {arguments : List Signature} :
      ¬ ctx.Takes arguments.length (ctx.head? scope base) →
      HasFault ctx scope depth (.generic base arguments)
  | part {depth : Nat} {s u : Signature} : u ∈ s.parts → HasFault ctx scope (depth + 1) u →
      HasFault ctx scope depth s

def leadsTo (ctx : Context) (scope : List Symbol) (depth : Nat) (s : Signature) : Symbol :=
  ((ctx.resolveAt scope depth s).outcome {}).symbol

/-- Something is wrong at a place that shows: not in the base of a generic type with arguments, unless
what the base leads to does not take them. -/
inductive ShowsFault (ctx : Context) (scope : List Symbol) : Nat → Signature → Prop
  | deep {depth : Nat} {s : Signature} : ctx.config.signatureDepth ≤ depth →
      ShowsFault ctx scope depth s
  | root {depth : Nat} {s : Signature} : ctx.IsDefective scope s → ShowsFault ctx scope depth s
  | arity {depth : Nat} {base : Signature} {arguments : List Signature} :
      ¬ ctx.Takes arguments.length (ctx.leadsTo scope (depth + 1) base).definition? →
      ShowsFault ctx scope depth (.generic base arguments)
  | operand {depth : Nat} {s u : Signature} : u ∈ s.operands →
      ShowsFault ctx scope (depth + 1) u → ShowsFault ctx scope depth s
  | base {depth : Nat} {base : Signature} : ShowsFault ctx scope (depth + 1) base →
      ShowsFault ctx scope depth (.generic base [])

theorem showsFault_iff : ctx.ShowsFault scope depth s ↔ ctx.config.signatureDepth ≤ depth ∨
    ctx.IsDefective scope s ∨ (∃ u ∈ s.operands, ctx.ShowsFault scope (depth + 1) u) ∨
    ∃ base arguments, s = .generic base arguments ∧
      (¬ ctx.Takes arguments.length (ctx.leadsTo scope (depth + 1) base).definition? ∨
        arguments = [] ∧ ctx.ShowsFault scope (depth + 1) base) := by
  constructor
  · intro shows
    cases shows with
    | deep deep => exact .inl deep
    | root defect => exact .inr (.inl defect)
    | arity mismatch => exact .inr (.inr (.inr ⟨_, _, rfl, .inl mismatch⟩))
    | operand member inner => exact .inr (.inr (.inl ⟨_, member, inner⟩))
    | base inner => exact .inr (.inr (.inr ⟨_, _, rfl, .inr ⟨rfl, inner⟩⟩))
  · rintro (deep | defect | ⟨u, member, inner⟩ | ⟨base, arguments, rfl, mismatch | ⟨rfl, inner⟩⟩)
    · exact .deep deep
    · exact .root defect
    · exact .operand member inner
    · exact .arity mismatch
    · exact .base inner

theorem Nominal.holdsFault {token : Token} {r : Resolved} (result : ctx.Nominal token r) :
    r.symbol.HoldsFault ↔ ctx.typeOf? token = none := by
  cases result with
  | known n found => exact iff_of_false (Symbol.not_holdsFault_named n _) (by simp [found])
  | unknown n cause missing => exact iff_of_true (Symbol.holdsFault_unsupported n cause) missing

theorem resolveParameter_holdsFault (clean : ∀ a ∈ scope, ¬ a.HoldsFault) (i : UInt32) :
    Build.Yields (fun s => s.HoldsFault ↔ scope.length ≤ i.toNat) (resolveParameter scope i) := by
  unfold resolveParameter
  cases found : scope[i.toNat]? with
  | none =>
      have outside : scope.length ≤ i.toNat := List.getElem?_eq_none_iff.mp found
      exact (Build.unsupported_holdsFault _).mono fun s fault => iff_of_true fault outside
  | some symbol =>
      obtain ⟨inside, -⟩ := List.getElem?_eq_some_iff.mp found
      have sound : ¬ symbol.HoldsFault := clean symbol (List.mem_of_getElem? found)
      exact .pure (iff_of_false sound (Nat.not_le.mpr inside))

inductive ModifiersResolved (ctx : Context) (modifiers : List ModifierToken) :
    Except Symbol (List (Modifier Symbol)) → Prop
  | known (types : List (Modifier Symbol)) : (¬ ∃ m ∈ modifiers, ctx.typeOf? m.token = none) →
      ModifiersResolved ctx modifiers (.ok types)
  | unknown (n : Nat) (cause : Option Fault) : (∃ m ∈ modifiers, ctx.typeOf? m.token = none) →
      ModifiersResolved ctx modifiers (.error (.unsupported n cause))

theorem resolveModifiers_yields (ctx : Context) (modifiers : List ModifierToken) :
    Build.Yields (ctx.ModifiersResolved modifiers) (ctx.resolveModifiers modifiers) := by
  induction modifiers with
  | nil => exact .pure (.known [] (by simp))
  | cons m modifiers ih =>
      rw [resolveModifiers]
      cases found : ctx.typeOf? m.token with
      | none =>
          refine (Build.unsupported_yields _).bind ?_
          rintro _ ⟨n, rfl⟩
          exact .pure (.unknown n _ ⟨m, List.mem_cons_self, found⟩)
      | some d =>
          refine .after fun type => ih.bind fun result rest => .pure ?_
          cases rest with
          | known types all => exact .known _ (by simpa [found] using all)
          | unknown n cause some =>
              obtain ⟨m', member, missing⟩ := some
              exact .unknown n cause ⟨m', List.mem_cons_of_mem _ member, missing⟩

theorem modified_holdsFault {r : Resolved} {make : List (Modifier Symbol) → Build Symbol}
    (made : ∀ types, Build.Yields (fun t => t.HoldsFault ↔ r.symbol.HoldsFault) (make types))
    (modifiers : List ModifierToken) :
    Build.Yields (fun r' => r'.symbol.HoldsFault ↔
        (∃ m ∈ modifiers, ctx.typeOf? m.token = none) ∨ r.symbol.HoldsFault)
      (do match ← ctx.resolveModifiers modifiers with
          | .ok modifiers => return { r with symbol := ← make modifiers }
          | .error symbol => return { r with symbol }) := by
  refine (ctx.resolveModifiers_yields modifiers).bind fun result resolved => ?_
  cases resolved with
  | known types all =>
      refine (made types).bind fun t same => .pure ?_
      rw [or_iff_right all]
      exact same
  | unknown n cause some =>
      exact .pure (iff_of_true (Symbol.holdsFault_unsupported n cause) (.inl some))

theorem definition?_leadsTo (s : Signature) : Build.Yields
    (fun r => r.symbol.definition? = (ctx.leadsTo scope depth s).definition?)
    (ctx.resolveAt scope depth s) := by
  intro p
  have same : ((ctx.resolveAt scope depth s).outcome p).symbol.unnumbered =
      (ctx.leadsTo scope depth s).unnumbered :=
    ctx.resolveAt_unnumbered scope s (.same rfl rfl) p {}
  rw [← Symbol.definition?_unnumbered, same, Symbol.definition?_unnumbered]

theorem resolveAt_holdsFault (loaded : ctx.home.IsLoaded)
    (clean : ∀ a ∈ scope, ¬ a.HoldsFault) (s : Signature) (depth : Nat) :
    Build.Yields (fun r => r.symbol.HoldsFault ↔ ctx.ShowsFault scope depth s)
      (ctx.resolveAt scope depth s) := by
  induction s using Signature.parts_induction generalizing depth with
  | made s ih =>
    by_cases deep : ctx.config.signatureDepth ≤ depth
    · rw [resolveAt_of_deep deep]
      refine .after fun _ => (Build.unsupported_holdsFault _).bind fun t fault => .pure ?_
      exact iff_of_true fault (.deep deep)
    have inside : depth < ctx.config.signatureDepth := Nat.not_le.mp deep
    have inner (u : Signature) (member : u ∈ s.parts) := ih u member (depth + 1)
    cases s with
    | element type =>
        rw [resolveAt, within_eq inside, showsFault_iff]
        refine (Module.special_holdsFault loaded type.special).bind fun t fault => .pure ?_
        simpa [deep, IsDefective, Signature.operands] using fault
    | classType token | valueType token =>
        rw [resolveAt, within_eq inside, showsFault_iff]
        refine (ctx.resolveNominal_yields token).mono fun r result => ?_
        simpa [deep, IsDefective, Signature.operands] using result.holdsFault
    | parameter i =>
        rw [resolveAt, within_eq inside, showsFault_iff]
        refine (resolveParameter_holdsFault clean i).bind fun t fault => .pure ?_
        simpa [deep, IsDefective, Signature.operands] using fault
    | pointer pointee modifiers =>
        rw [resolveAt, within_eq inside, showsFault_iff]
        refine (inner _ List.mem_cons_self).bind fun r below => ?_
        refine (modified_holdsFault (Build.pointer_holdsFault r.symbol) modifiers).mono
          fun r' fault => ?_
        simpa [deep, IsDefective, Signature.operands, below] using fault
    | szArray element modifiers =>
        rw [resolveAt, within_eq inside, showsFault_iff]
        refine (inner _ List.mem_cons_self).bind fun r below => ?_
        refine (modified_holdsFault (Build.szArray_holdsFault r.symbol) modifiers).mono
          fun r' fault => ?_
        simpa [deep, IsDefective, Signature.operands, below] using fault
    | array element rank dimensions =>
        rw [resolveAt, within_eq inside, showsFault_iff]
        refine (inner _ List.mem_cons_self).bind fun r below => ?_
        refine (Build.array_holdsFault ctx.hierarchy r.symbol rank dimensions).bind
          fun t fault => .pure ?_
        simpa [deep, IsDefective, Signature.operands, below] using fault
    | byRef referenced =>
        rw [resolveAt, within_eq inside, showsFault_iff]
        refine (inner _ List.mem_cons_self).bind fun r below => ?_
        refine (Build.byRef_holdsFault r.symbol).bind fun t fault => .pure ?_
        simpa [deep, IsDefective, Signature.operands, below] using fault
    | generic base arguments =>
        rw [resolveAt, within_eq inside, showsFault_iff]
        have root : Build.Yields (fun r => (r.symbol.HoldsFault ↔
            ctx.ShowsFault scope (depth + 1) base) ∧
            r.symbol.definition? = (ctx.leadsTo scope (depth + 1) base).definition?)
            (ctx.resolveAt scope (depth + 1) base) :=
          fun p => ⟨inner base List.mem_cons_self p, definition?_leadsTo base p⟩
        refine root.bind fun r known => ?_
        refine (resolveEach_yields fun a member =>
          inner a (List.mem_cons_of_mem _ member)).bind fun rs each => ?_
        refine (ctx.instantiate_holdsFault r.symbol _ _).bind fun t fault => .pure ?_
        have faulty : (∃ a ∈ rs.map (·.symbol), a.HoldsFault) ↔
            ∃ a ∈ arguments, ctx.ShowsFault scope (depth + 1) a := by
          rw [← exists_mem_iff_of_forall₂ each]
          simp
        have none : rs = [] ↔ arguments = [] := by
          rw [← List.length_eq_zero_iff, each.length_eq, List.length_eq_zero_iff]
        rw [fault, faulty, known.1, known.2, List.length_map, each.length_eq, List.map_eq_nil_iff,
          none]
        simp [deep, IsDefective, Signature.operands, or_left_comm]
    | invalid fault =>
        rw [resolveAt, within_eq inside]
        refine (Build.unsupported_holdsFault _).bind fun t fault => .pure ?_
        exact iff_of_true fault (.root trivial)

theorem leadsTo_of_deep (deep : ctx.config.signatureDepth ≤ depth) (s : Signature) :
    (ctx.leadsTo scope depth s).definition? = none := by
  rw [leadsTo, resolveAt_of_deep deep]
  rfl

theorem leadsTo_of_token {token : Token} (named : base.token? = some token)
    (inside : depth < ctx.config.signatureDepth) :
    (ctx.leadsTo scope depth base).definition? = ctx.typeOf? token := by
  have origin : ctx.Nominal token ((ctx.resolveAt scope depth base).outcome {}) :=
    resolveAt_nominal named inside {}
  rw [leadsTo]
  generalize (ctx.resolveAt scope depth base).outcome {} = r at origin ⊢
  cases origin with
  | known n found => exact found.symm
  | unknown n cause missing => exact missing.symm

theorem leadsTo_of_showsFault (nominal : base.isNominal = true)
    (fault : ctx.ShowsFault scope depth base) :
    (ctx.leadsTo scope depth base).definition? = none := by
  by_cases deep : ctx.config.signatureDepth ≤ depth
  · exact leadsTo_of_deep deep base
  cases base with
  | classType token | valueType token =>
      rw [leadsTo_of_token rfl (Nat.not_le.mp deep)]
      rw [showsFault_iff] at fault
      simpa [deep, IsDefective, Signature.operands] using fault
  | _ => simp [Signature.isNominal] at nominal

theorem showsFault_of_base (nominal : base.isNominal = true)
    (fault : ctx.ShowsFault scope (depth + 1) base) :
    ctx.ShowsFault scope depth (.generic base arguments) := by
  by_cases none : arguments = []
  · rw [none]
    exact .base fault
  · refine .arity ?_
    rw [leadsTo_of_showsFault nominal fault]
    simpa [Takes] using none

theorem showsFault_of_hasFault (fault : ctx.HasFault scope depth s)
    (nominal : ∀ base parts, Signature.IsPartOf (.generic base parts) s → base.isNominal = true) :
    ctx.ShowsFault scope depth s := by
  induction fault with
  | deep deep => exact .deep deep
  | root defect => exact .root defect
  | @arity depth base arguments mismatch =>
      have token : base.isNominal = true := nominal base arguments (.refl _)
      by_cases deep : ctx.config.signatureDepth ≤ depth + 1
      · exact showsFault_of_base token (.deep deep)
      · refine .arity ?_
        cases base with
        | classType token | valueType token =>
            rw [leadsTo_of_token rfl (Nat.not_le.mp deep)]
            exact mismatch
        | _ => simp [Signature.isNominal] at token
  | @part depth s u member _ ih =>
      have inner : ctx.ShowsFault scope (depth + 1) u :=
        ih fun base parts below => nominal base parts (below.inner member)
      cases s with
      | generic base arguments =>
          rcases List.mem_cons.mp member with rfl | member
          · exact showsFault_of_base (nominal _ arguments (.refl _)) inner
          · exact .operand member inner
      | _ => exact .operand member inner

/-- The symbol of a signature holds a fault exactly if one shows. Where all bases are tokens, as in
well-formed metadata, this is so for every signature with a fault. -/
theorem resolve_holdsFault {ctx : Context} (loaded : ctx.home.IsLoaded) {scope : List Symbol}
    (clean : ∀ a ∈ scope, ¬ a.HoldsFault) (s : Signature) (p : Progress) :
    (((ctx.resolve scope s).outcome p).HoldsFault ↔ ctx.ShowsFault scope 0 s) ∧
      ((∀ base parts, Signature.IsPartOf (.generic base parts) s → base.isNominal = true) →
        ctx.HasFault scope 0 s → ((ctx.resolve scope s).outcome p).HoldsFault) := by
  have shows : ((ctx.resolve scope s).outcome p).HoldsFault ↔ ctx.ShowsFault scope 0 s :=
    resolveAt_holdsFault loaded clean s 0 p
  exact ⟨shows, fun nominal fault => shows.mpr (showsFault_of_hasFault fault nominal)⟩

theorem resolve_box_of_missing_holdsFault :
    let s : Signature := .generic (.classType Sample.box.token) [.byRef (.parameter 1)]
    let symbol := (Sample.context.resolve [.named 0 Sample.point] s).outcome {}
    symbol.isUnsupported = false ∧ symbol.HoldsFault := by
  intro s symbol
  have clean : ∀ a ∈ [Symbol.named 0 Sample.point], ¬ a.HoldsFault := by
    simpa using Symbol.not_holdsFault_named 0 Sample.point
  have bases : s.hasNominalBases = true := rfl
  have missing : Sample.context.HasFault [.named 0 Sample.point] 0 s :=
    .part (List.mem_cons_of_mem _ List.mem_cons_self)
      (.part List.mem_cons_self (.root (Nat.le_refl 1)))
  refine ⟨rfl, (resolve_holdsFault Sample.isLoaded clean s {}).2 ?_ missing⟩
  intro base parts part
  exact Signature.isNominal_of_hasNominalBases bases part

/-- `Box<Point>`, made from `Box` with a faulty argument as its base, shows no fault. -/
theorem resolve_box_of_box_hides_fault :
    let base : Signature :=
      .generic (.classType Sample.box.token) [.byRef (.invalid .outOfBounds)]
    let s : Signature := .generic base [.classType Sample.point.token]
    Sample.context.HasFault [] 0 s ∧ ¬ ((Sample.context.resolve [] s).outcome {}).HoldsFault := by
  intro base s
  constructor
  · refine .part (u := base) List.mem_cons_self ?_
    refine .part (List.mem_cons_of_mem _ List.mem_cons_self) ?_
    exact .part List.mem_cons_self (.root trivial)
  · have result : (Sample.context.resolve [] s).outcome {} =
        .constructed 5 Sample.box (Binding.align Sample.box.parameters [.named 4 Sample.point]) := rfl
    rw [result, Symbol.holdsFault_iff]
    simpa [Symbol.isUnsupported, Symbol.parts, Binding.align, Sample.box, Sample.define] using
      Symbol.not_holdsFault_named 4 Sample.point

end Context

end ClrTypes
