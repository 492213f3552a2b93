import ClrTypes.Proofs.Building
import ClrTypes.Proofs.Signature
import ClrTypes.Proofs.Symbol.Bare
import ClrTypes.Resolution

/-!
# Resolving one signature in two contexts

If a relation between symbols is kept by everything that resolution builds symbols with, then the
symbols of a signature in the two contexts are related. This is one induction over signatures, for
all laws that compare resolutions and for all invariants of resolved symbols. The second context
may also be given the signature cut off where the first one gives up.
-/

namespace ClrTypes

def Modifier.IsAlike (m n : Modifier Symbol) : Prop :=
  m.required = n.required ∧ ∃ k k' d, m.type = .named k d ∧ n.type = .named k' d

theorem Symbol.bareModifiers_of_alike {marks : Bool} {ms ns : List (Modifier Symbol)}
    (alike : List.Forall₂ Modifier.IsAlike ms ns) :
    bareModifiers marks ms = bareModifiers marks ns := by
  induction alike with
  | nil => rfl
  | cons first _ ih =>
      obtain ⟨required, _, _, d, left, right⟩ := first
      simp [bareModifiers, required, left, right, bare, ih]

namespace Context

/-- `R` is kept by everything that builds symbols in two contexts, as far as this happens for
signatures that `admits` holds of. -/
structure Simulates (ctx ctx' : Context) (scope scope' : List Symbol)
    (admits : Signature → Prop) (R : Symbol → Symbol → Prop) : Prop where
  types (s : Signature) (token : Token) : admits s → token ∈ s.tokens →
    ctx'.typeOf? token = ctx.typeOf? token
  named (n n' : Nat) (d : Definition) (token : Token) : ctx.typeOf? token = some d →
    R (.named n d) (.named n' d)
  fault (n n' : Nat) (cause : Option Fault) : R (.unsupported n cause) (.unsupported n' cause)
  special (type : ElementType) : admits (.element type) →
    Build.Relates R (ctx.home.special type.special) (ctx'.home.special type.special)
  parameter (i : UInt32) : Build.Relates R (resolveParameter scope i) (resolveParameter scope' i)
  pointer (s t : Symbol) (ms ns : List (Modifier Symbol)) : R s t →
    List.Forall₂ Modifier.IsAlike ms ns →
    Build.Relates R (Build.pointer s ms) (Build.pointer t ns)
  szArray (s t : Symbol) (ms ns : List (Modifier Symbol)) : R s t →
    List.Forall₂ Modifier.IsAlike ms ns →
    Build.Relates R (Build.szArray s ms) (Build.szArray t ns)
  array (s t : Symbol) (element : Signature) (rank : UInt32) (dimensions : List Dimension) :
    admits (.array element rank dimensions) → R s t →
    Build.Relates R (Build.array ctx.hierarchy s rank dimensions [])
      (Build.array ctx'.hierarchy t rank dimensions [])
  byRef (s t : Symbol) : R s t → Build.Relates R (Build.byRef s) (Build.byRef t)
  generic (s t : Symbol) (ss ts : List Symbol) (flags : List Bool) (base : Signature)
    (arguments : List Signature) : admits (.generic base arguments) → R s t →
    (base.isNominal = true → s.SameRoot t) → List.Forall₂ R ss ts →
    Build.Relates R (ctx.instantiate s ss flags) (ctx'.instantiate t ts flags)

inductive Aligned (ctx ctx' : Context) (depth depth' : Nat) (s : Signature) : Signature → Prop
  | same : depth = depth' → ctx.config.signatureDepth = ctx'.config.signatureDepth →
      Aligned ctx ctx' depth depth' s s
  | shallow : depth + s.height ≤ ctx.config.signatureDepth →
      depth' + s.height ≤ ctx'.config.signatureDepth → Aligned ctx ctx' depth depth' s s
  | cut (room : Nat) : depth + room = ctx.config.signatureDepth →
      depth' + room < ctx'.config.signatureDepth →
      Aligned ctx ctx' depth depth' s (s.truncate (.recursionLimit ctx.config.signatureDepth) room)

theorem Aligned.inside {ctx ctx' : Context} {depth depth' : Nat} {s s' : Signature}
    (aligned : Aligned ctx ctx' depth depth' s s') (inside : depth < ctx.config.signatureDepth) :
    depth' < ctx'.config.signatureDepth ∧ ∃ f : Signature → Signature, s' = s.mapParts f ∧
      ∀ u ∈ s.parts, Aligned ctx ctx' (depth + 1) (depth' + 1) u (f u) := by
  cases aligned with
  | same same limits =>
      refine ⟨by omega, id, (Signature.mapParts_eq_self fun u _ => rfl).symm, fun u _ => ?_⟩
      exact .same (by omega) limits
  | shallow fits fits' =>
      have positive := s.height_pos
      refine ⟨by omega, id, (Signature.mapParts_eq_self fun u _ => rfl).symm, fun u member => ?_⟩
      have lower := Signature.height_lt_of_mem_parts member
      exact .shallow (by omega) (by omega)
  | cut room limit limit' =>
      cases room with
      | zero => omega
      | succ room =>
          refine ⟨by omega, Signature.truncate _ room, rfl, fun u _ => ?_⟩
          exact .cut room (by omega) (by omega)

def Alike (R : Symbol → Symbol → Prop) (s : Signature) (r r' : Resolved) : Prop :=
  R r.symbol r'.symbol ∧ r.isLocal = r'.isLocal ∧
    (s.isNominal = true → r.symbol.SameRoot r'.symbol)

def ModifiersAlike (R : Symbol → Symbol → Prop) : Except Symbol (List (Modifier Symbol)) →
    Except Symbol (List (Modifier Symbol)) → Prop
  | .ok ms, .ok ns => List.Forall₂ Modifier.IsAlike ms ns
  | .error s, .error t => R s t
  | _, _ => False

variable {ctx ctx' : Context} {scope scope' : List Symbol} {admits : Signature → Prop}
  {R : Symbol → Symbol → Prop}

theorem Simulates.unsupported (sim : Simulates ctx ctx' scope scope' admits R)
    (cause : Option Fault) :
    Build.Relates (fun s t => R s t ∧ s.SameRoot t) (Build.unsupported cause)
      (Build.unsupported cause) := by
  refine ((Build.unsupported_yields cause).both (Build.unsupported_yields cause)).mono ?_
  rintro _ _ ⟨⟨n, rfl⟩, ⟨n', rfl⟩⟩
  exact ⟨sim.fault n n' cause, .inr ⟨n, n', cause, rfl, rfl⟩⟩

theorem Alike.of_root {s : Signature} {a b : Symbol} (same : R a b ∧ a.SameRoot b)
    (isLocal : Bool) : Alike R s ⟨a, isLocal⟩ ⟨b, isLocal⟩ :=
  ⟨same.1, rfl, fun _ => same.2⟩

theorem Alike.of_related {s : Signature} {r r' : Resolved} (related : R r.symbol r'.symbol)
    (flags : r.isLocal = r'.isLocal) (wrapped : s.isNominal = false) : Alike R s r r' :=
  ⟨related, flags, by simp [wrapped]⟩

theorem resolveParameter_yields {P : Symbol → Prop} (known : ∀ a ∈ scope, P a)
    (fault : ∀ n cause, P (.unsupported n cause)) (i : UInt32) :
    Build.Yields P (resolveParameter scope i) := by
  unfold resolveParameter
  cases found : scope[i.toNat]? with
  | some a => exact .pure (known a (List.mem_of_getElem? found))
  | none => exact (Build.unsupported_yields _).mono fun _ ⟨n, same⟩ => same ▸ fault n _

theorem within_eq {depth : Nat} (inside : depth < ctx.config.signatureDepth)
    (step : Build Resolved) : ctx.within depth step = step :=
  if_pos inside

theorem resolveAt_of_deep {depth : Nat} (deep : ctx.config.signatureDepth ≤ depth)
    (s : Signature) : ctx.resolveAt scope depth s = (do
      Build.report (.tooDeep ctx.config.signatureDepth)
      return ⟨← Build.unsupported (some (.recursionLimit ctx.config.signatureDepth)), false⟩) := by
  cases s <;> exact (resolveAt.eq_def ..).trans (if_neg (Nat.not_lt.mpr deep))

theorem Simulates.outside (sim : Simulates ctx ctx' scope scope' admits R) {s s' : Signature}
    {depth depth' : Nat} (aligned : Aligned ctx ctx' depth depth' s s')
    (deep : ctx.config.signatureDepth ≤ depth) :
    Build.Relates (Alike R s) (ctx.resolveAt scope depth s) (ctx'.resolveAt scope' depth' s') := by
  have refusals := (sim.unsupported (some (.recursionLimit ctx.config.signatureDepth))).bind
    fun a b same => Build.Relates.pure (Alike.of_root (s := s) same false)
  rw [resolveAt_of_deep deep]
  cases aligned with
  | same same limits =>
      rw [resolveAt_of_deep (limits ▸ same ▸ deep), ← limits]
      exact .after fun _ _ => refusals
  | shallow fits =>
      have positive := s.height_pos
      omega
  | cut room limit limit' =>
      obtain rfl : room = 0 := by omega
      rw [Nat.add_zero] at limit'
      rw [Signature.truncate, Context.resolveAt, within_eq limit']
      exact .afterLeft fun _ => refusals

theorem Simulates.nominal (sim : Simulates ctx ctx' scope scope' admits R) {s : Signature}
    (admitted : admits s) {token : Token} (member : token ∈ s.tokens) :
    Build.Relates (Alike R s) (ctx.resolveNominal token) (ctx'.resolveNominal token) := by
  simp only [resolveNominal, sim.types s token admitted member]
  cases found : ctx.typeOf? token with
  | some d =>
      refine ((Build.named_yields d).both (Build.named_yields d)).bind ?_
      rintro _ _ ⟨⟨n, rfl⟩, ⟨n', rfl⟩⟩
      exact .pure (.of_root ⟨sim.named n n' d token found, .inl ⟨n, n', d, rfl, rfl⟩⟩ d.isLocal)
  | none =>
      have fault := (sim.unsupported (some (tokenFault token))).bind fun a b same =>
        Build.Relates.pure (Alike.of_root (s := s) same false)
      cases token.isType
      · exact fault
      · exact .after fun _ _ => fault

theorem Simulates.modifiers (sim : Simulates ctx ctx' scope scope' admits R)
    {modifiers : List ModifierToken}
    (types : ∀ m ∈ modifiers, ctx'.typeOf? m.token = ctx.typeOf? m.token) :
    Build.Relates (ModifiersAlike R)
      (ctx.resolveModifiers modifiers) (ctx'.resolveModifiers modifiers) := by
  induction modifiers with
  | nil => exact .pure .nil
  | cons m modifiers ih =>
      simp only [resolveModifiers, types m List.mem_cons_self]
      have ih := ih fun n member => types n (List.mem_cons_of_mem _ member)
      cases ctx.typeOf? m.token with
      | none => exact (sim.unsupported _).bind fun a b same => .pure same.1
      | some d =>
          refine ((Build.named_yields d).both (Build.named_yields d)).bind
            fun a b named => ih.bind fun left right alike => .pure ?_
          obtain ⟨⟨k, rfl⟩, ⟨k', rfl⟩⟩ := named
          have first : Modifier.IsAlike ⟨m.required, .named k d⟩ ⟨m.required, .named k' d⟩ :=
            ⟨rfl, k, k', d, rfl, rfl⟩
          cases left <;> cases right <;>
            simp_all [ModifiersAlike, Except.map]

theorem Simulates.modified (sim : Simulates ctx ctx' scope scope' admits R) {s t : Signature}
    {r r' : Resolved} {make make' : List (Modifier Symbol) → Build Symbol}
    (inner : Alike R t r r') {modifiers : List ModifierToken} (admitted : admits s)
    (own : s.tokens = modifiers.map (·.token))
    (made : ∀ ms ns, List.Forall₂ Modifier.IsAlike ms ns → Build.Relates R (make ms) (make' ns))
    (wrapped : s.isNominal = false) :
    Build.Relates (Alike R s)
      (do match ← ctx.resolveModifiers modifiers with
          | .ok modifiers => return { r with symbol := ← make modifiers }
          | .error symbol => return { r with symbol })
      (do match ← ctx'.resolveModifiers modifiers with
          | .ok modifiers => return { r' with symbol := ← make' modifiers }
          | .error symbol => return { r' with symbol }) := by
  have types (m : ModifierToken) (member : m ∈ modifiers) :
      ctx'.typeOf? m.token = ctx.typeOf? m.token := by
    apply sim.types s m.token admitted
    rw [own]
    exact List.mem_map_of_mem member
  refine (sim.modifiers types).bind fun left right alike => ?_
  cases left <;> cases right <;> simp only [ModifiersAlike] at alike
  · exact .pure (.of_related alike inner.2.1 wrapped)
  · exact (made _ _ alike).bind fun _ _ related => .pure (.of_related related inner.2.1 wrapped)

theorem Simulates.each {depth depth' : Nat} {arguments : List Signature}
    {f : Signature → Signature}
    (alike : ∀ a ∈ arguments, Build.Relates (Alike R a) (ctx.resolveAt scope depth a)
      (ctx'.resolveAt scope' depth' (f a))) :
    Build.Relates (fun rs rs' => List.Forall₂ R (rs.map (·.symbol)) (rs'.map (·.symbol)) ∧
        rs.map (·.isLocal) = rs'.map (·.isLocal))
      (ctx.resolveEach scope depth arguments)
      (ctx'.resolveEach scope' depth' (arguments.map f)) := by
  induction arguments with
  | nil => exact .pure ⟨.nil, rfl⟩
  | cons a arguments ih =>
      simp only [resolveEach, List.map_cons]
      refine (alike a List.mem_cons_self).bind fun r r' first => ?_
      refine (ih fun a member => alike a (List.mem_cons_of_mem _ member)).bind
        fun rs rs' rest => .pure ?_
      exact ⟨.cons first.1 rest.1, by simp [first.2.1, rest.2]⟩

theorem Simulates.resolveAt (sim : Simulates ctx ctx' scope scope' admits R) (s : Signature)
    {s' : Signature} {depth depth' : Nat} (aligned : Aligned ctx ctx' depth depth' s s')
    (admitted : ∀ t, Signature.IsPartOf t s → admits t) :
    Build.Relates (Alike R s) (ctx.resolveAt scope depth s) (ctx'.resolveAt scope' depth' s') := by
  induction s using Signature.parts_induction generalizing s' depth depth' with
  | made s ih =>
    by_cases deep : ctx.config.signatureDepth ≤ depth
    · exact sim.outside aligned deep
    have inside : depth < ctx.config.signatureDepth := Nat.not_le.mp deep
    obtain ⟨inside', f, rfl, parts⟩ := aligned.inside inside
    have inner (u : Signature) (member : u ∈ s.parts) : Build.Relates (Alike R u)
        (ctx.resolveAt scope (depth + 1) u) (ctx'.resolveAt scope' (depth' + 1) (f u)) :=
      ih u member (parts u member) fun t below => admitted t (below.inner member)
    have whole : admits s := admitted s (.refl s)
    cases s with
    | element type =>
        simp only [Signature.mapParts, Context.resolveAt, within_eq inside, within_eq inside']
        exact (sim.special type whole).bind fun _ _ related => .pure (.of_related related rfl rfl)
    | classType token | valueType token =>
        simp only [Signature.mapParts, Context.resolveAt, within_eq inside, within_eq inside']
        exact sim.nominal whole List.mem_cons_self
    | parameter i =>
        simp only [Signature.mapParts, Context.resolveAt, within_eq inside, within_eq inside']
        exact (sim.parameter i).bind fun _ _ related => .pure (.of_related related rfl rfl)
    | pointer pointee modifiers =>
        simp only [Signature.mapParts, Context.resolveAt, within_eq inside, within_eq inside']
        refine (inner pointee List.mem_cons_self).bind fun r r' alike => ?_
        exact sim.modified alike whole rfl (fun ms ns => sim.pointer _ _ ms ns alike.1) rfl
    | szArray element modifiers =>
        simp only [Signature.mapParts, Context.resolveAt, within_eq inside, within_eq inside']
        refine (inner element List.mem_cons_self).bind fun r r' alike => ?_
        exact sim.modified alike whole rfl (fun ms ns => sim.szArray _ _ ms ns alike.1) rfl
    | array element rank dimensions =>
        simp only [Signature.mapParts, Context.resolveAt, within_eq inside, within_eq inside']
        refine (inner element List.mem_cons_self).bind fun r r' alike => ?_
        exact (sim.array _ _ element rank dimensions whole alike.1).bind fun _ _ related =>
          .pure (.of_related related alike.2.1 rfl)
    | byRef referenced =>
        simp only [Signature.mapParts, Context.resolveAt, within_eq inside, within_eq inside']
        refine (inner referenced List.mem_cons_self).bind fun r r' alike => ?_
        exact (sim.byRef _ _ alike.1).bind fun _ _ related =>
          .pure (.of_related related alike.2.1 rfl)
    | generic base arguments =>
        simp only [Signature.mapParts, Context.resolveAt, within_eq inside, within_eq inside']
        refine (inner base List.mem_cons_self).bind fun r r' root => ?_
        refine (Simulates.each fun a member => inner a (List.mem_cons_of_mem _ member)).bind
          fun rs rs' each => ?_
        rw [each.2]
        exact (sim.generic _ _ _ _ _ base arguments whole root.1 root.2.2 each.1).bind
          fun _ _ related => .pure (.of_related related rfl rfl)
    | invalid fault =>
        simp only [Signature.mapParts, Context.resolveAt, within_eq inside, within_eq inside']
        exact (sim.unsupported _).bind fun _ _ same => .pure (.of_root same false)

theorem Simulates.resolve (sim : Simulates ctx ctx' scope scope' admits R) {s s' : Signature}
    (aligned : Aligned ctx ctx' 0 0 s s') (admitted : ∀ t, Signature.IsPartOf t s → admits t) :
    Build.Relates R (ctx.resolve scope s) (ctx'.resolve scope' s') :=
  (sim.resolveAt s aligned admitted).bind fun _ _ alike => .pure alike.1

end Context

end ClrTypes
