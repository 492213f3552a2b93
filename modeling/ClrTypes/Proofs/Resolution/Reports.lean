import ClrTypes.Proofs.Instantiation
import ClrTypes.Proofs.Resolution.Simulation

namespace ClrTypes

def Event.unknown? : Event → Option Token
  | .unknownType token => some token
  | _ => none

def Progress.unknown (p : Progress) : List Token :=
  p.log.filterMap Event.unknown?

namespace Build

variable {α β : Type} {x : Build α} {f : α → Build β} {reported others : List Token}

def Reports (reported : List Token) (step : Build α) : Prop :=
  ∀ p, (step.run p).2.unknown = p.unknown ++ reported

theorem Reports.pure (a : α) : Reports [] (pure a : Build α) :=
  fun _ => (List.append_nil _).symm

theorem Reports.bind (first : Reports reported x) (next : ∀ a, Reports others (f a)) :
    Reports (reported ++ others) (x >>= f) := by
  intro p
  rw [run_bind, next, first, List.append_assoc]

theorem Reports.map (first : Reports reported x) (next : ∀ a, Reports [] (f a)) :
    Reports reported (x >>= f) := by
  simpa using first.bind next

theorem Reports.after (first : Reports [] x) (next : ∀ a, Reports reported (f a)) :
    Reports reported (x >>= f) :=
  first.bind next

theorem Reports.ite {role : Prop} [Decidable role] {y : Build α} (left : Reports reported x)
    (right : Reports reported y) : Reports reported (if role then x else y) := by
  split <;> assumption

theorem serial_reports : Reports [] serial :=
  fun _ => (List.append_nil _).symm

theorem report_reports (event : Event) : Reports event.unknown?.toList (report event) := by
  intro p
  rw [run_report, Progress.unknown, Progress.log, List.reverse_cons, List.filterMap_append]
  cases event <;> rfl

theorem other_reports {event : Event} (other : event.unknown? = none) :
    Reports [] (report event) := by
  simpa [other] using report_reports event

theorem named_reports (d : Definition) : Reports [] (named d) :=
  serial_reports.map fun _ => .pure _

theorem constructed_reports (d : Definition) (bindings : List (Binding Symbol)) :
    Reports [] (constructed d bindings) :=
  serial_reports.map fun _ => .pure _

theorem illegal_reports (s : Symbol) : Reports [] (illegal s) :=
  serial_reports.map fun _ => .pure _

theorem unsupported_reports (cause : Option Fault) : Reports [] (unsupported cause) :=
  serial_reports.map fun _ => .pure _

theorem byRef_reports (s : Symbol) : Reports [] (byRef s) :=
  serial_reports.map fun _ => .pure _

theorem pointer_reports (s : Symbol) (modifiers : List (Modifier Symbol)) :
    Reports [] (pointer s modifiers) :=
  .ite (.pure _) (serial_reports.map fun _ => .pure _)

theorem szArray_reports (s : Symbol) (modifiers : List (Modifier Symbol)) :
    Reports [] (szArray s modifiers) :=
  .ite (.pure _) (serial_reports.map fun _ => .pure _)

theorem array_reports (h : Hierarchy) (s : Symbol) (rank : UInt32) (dimensions : List Dimension)
    (modifiers : List (Modifier Symbol)) : Reports [] (array h s rank dimensions modifiers) :=
  .ite (.after (other_reports rfl) fun _ => unsupported_reports none)
    (.ite (.pure s) (.ite (unsupported_reports _) (serial_reports.map fun _ => .pure _)))

end Build

theorem Module.special_reports (m : Module) (type : SpecialType) :
    Build.Reports [] (m.special type) := by
  unfold special
  cases m.specials.lookup type with
  | some symbol => exact .pure symbol
  | none => exact Build.unsupported_reports _

namespace Context

variable {ctx : Context} {scope : List Symbol}

theorem construct_reports (ctx : Context) (d : Definition) (formals : List Parameter)
    (symbols : List Symbol) (illegal : Bool) :
    Build.Reports [] (ctx.construct d formals symbols illegal) := by
  unfold construct
  cases Substitution.ofLists formals symbols with
  | error fault => exact Build.unsupported_reports _
  | ok m =>
      refine (Build.constructed_reports d m.bindings).after fun s => .ite ?_ (.pure s)
      exact .after (Build.other_reports rfl) fun _ => Build.illegal_reports s

theorem instantiateDefinition_reports (ctx : Context) (generic : Symbol) (d : Definition)
    (symbols : List Symbol) (flags : List Bool) :
    Build.Reports [] (ctx.instantiateDefinition generic d symbols flags) := by
  unfold instantiateDefinition
  cases ctx.formals d with
  | error fault => exact Build.unsupported_reports _
  | ok formals =>
      refine .ite ?_ (.ite (.pure generic) (ctx.construct_reports d formals symbols _))
      exact .after (Build.other_reports rfl) fun _ => Build.unsupported_reports none

theorem instantiate_reports (ctx : Context) (generic : Symbol) (symbols : List Symbol)
    (flags : List Bool) : Build.Reports [] (ctx.instantiate generic symbols flags) := by
  refine .ite (.pure generic) (.ite (Build.unsupported_reports none) ?_)
  cases generic.definition? with
  | some d => exact ctx.instantiateDefinition_reports generic d symbols flags
  | none =>
      refine .ite (.pure generic) ?_
      exact .after (Build.other_reports rfl) fun _ => Build.unsupported_reports _

theorem resolveParameter_reports (scope : List Symbol) (i : UInt32) :
    Build.Reports [] (resolveParameter scope i) := by
  unfold resolveParameter
  cases scope[i.toNat]? with
  | some symbol => exact .pure symbol
  | none => exact Build.unsupported_reports _

theorem resolveModifiers_reports (ctx : Context) (modifiers : List ModifierToken) :
    Build.Reports [] (ctx.resolveModifiers modifiers) := by
  induction modifiers with
  | nil => exact .pure _
  | cons m modifiers ih =>
      rw [resolveModifiers]
      cases ctx.typeOf? m.token with
      | none => exact (Build.unsupported_reports _).map fun _ => .pure _
      | some d => exact (Build.named_reports d).after fun _ => ih.map fun _ => .pure _

def isUnknown (ctx : Context) (token : Token) : Bool :=
  token.isType && (ctx.home.definition? token).isNone

/-- The unknown token among modifiers that is turned into a fault. Only the first token without a
known type is looked at. -/
def convertedModifier? (ctx : Context) (modifiers : List ModifierToken) : Option Token :=
  ((modifiers.map (·.token)).find? fun token => (ctx.typeOf? token).isNone).filter ctx.isUnknown

structure Conversion where
  token : Token
  inModifier : Bool
deriving DecidableEq

def ownConversions (ctx : Context) : Signature → List Conversion
  | .classType token | .valueType token =>
    if ctx.isUnknown token then [⟨token, false⟩] else []
  | .pointer _ modifiers | .szArray _ modifiers =>
    (ctx.convertedModifier? modifiers).toList.map (⟨·, true⟩)
  | .element _ | .parameter _ | .array _ _ _ | .byRef _ | .generic _ _ | .invalid _ => []

/-- The conversions in a signature down to some depth, in the order in which they are made. -/
def conversions (ctx : Context) : (room : Nat) → Signature → List Conversion
  | 0, _ => []
  | room + 1, s => s.parts.flatMap (ctx.conversions room) ++ ctx.ownConversions s

def nominalTokens (conversions : List Conversion) : List Token :=
  (conversions.filter fun c => !c.inModifier).map (·.token)

theorem nominalTokens_append (left right : List Conversion) :
    nominalTokens (left ++ right) = nominalTokens left ++ nominalTokens right := by
  simp [nominalTokens]

theorem nominalTokens_flatMap {α : Type} (f : α → List Conversion) (xs : List α) :
    nominalTokens (xs.flatMap f) = xs.flatMap fun x => nominalTokens (f x) := by
  induction xs with
  | nil => rfl
  | cons x xs ih => rw [List.flatMap_cons, nominalTokens_append, ih, List.flatMap_cons]

theorem isUnknown_of_some {token : Token} {d : Definition} (found : ctx.typeOf? token = some d) :
    ctx.isUnknown token = false := by
  obtain ⟨type, known⟩ := Option.ite_none_right_eq_some.mp found
  simp [isUnknown, known]

theorem isUnknown_of_none {token : Token} (missing : ctx.typeOf? token = none) :
    ctx.isUnknown token = token.isType := by
  cases type : token.isType <;> simp_all [isUnknown, typeOf?]

theorem tokenFault_eq_iff {token other : Token} :
    tokenFault token = .typeNotFound other ↔ token.isType = true ∧ token = other := by
  unfold tokenFault
  split <;> simp_all

theorem resolveNominal_converts (ctx : Context) (token : Token) :
    Build.Yields (fun r => (∃ n, r.symbol = .unsupported n (some (.typeNotFound token))) ↔
      ctx.isUnknown token = true) (ctx.resolveNominal token) := by
  unfold resolveNominal
  cases found : ctx.typeOf? token with
  | some d =>
      refine (Build.named_yields d).bind ?_
      rintro _ ⟨n, rfl⟩
      exact .pure (by simp [isUnknown_of_some found])
  | none =>
      have refused : Build.Yields (fun r : Resolved =>
          (∃ n, r.symbol = .unsupported n (some (.typeNotFound token))) ↔ ctx.isUnknown token = true)
          (do return ⟨← Build.unsupported (some (tokenFault token)), false⟩) := by
        refine (Build.unsupported_yields _).bind ?_
        rintro _ ⟨n, rfl⟩
        exact .pure (by simp [isUnknown_of_none found, tokenFault_eq_iff])
      cases token.isType
      · exact refused
      · exact .after fun _ => refused

theorem resolveModifiers_converts (ctx : Context) (modifiers : List ModifierToken) (token : Token) :
    Build.Yields (fun r => (∃ n, r = .error (.unsupported n (some (.typeNotFound token)))) ↔
      ctx.convertedModifier? modifiers = some token) (ctx.resolveModifiers modifiers) := by
  induction modifiers with
  | nil => exact .pure (by simp [convertedModifier?])
  | cons m modifiers ih =>
      rw [resolveModifiers]
      cases found : ctx.typeOf? m.token with
      | none =>
          refine (Build.unsupported_yields _).bind ?_
          rintro _ ⟨n, rfl⟩
          apply Build.Yields.pure
          simp [convertedModifier?, found, isUnknown_of_none found, tokenFault_eq_iff,
            Option.filter_some]
      | some d =>
          refine .after fun _ => ih.bind fun rest converts => .pure ?_
          have same : ctx.convertedModifier? (m :: modifiers) = ctx.convertedModifier? modifiers := by
            simp [convertedModifier?, found]
          rw [same, ← converts]
          cases rest <;> simp [Except.map]

theorem resolveNominal_reports (ctx : Context) (token : Token) :
    Build.Reports (if ctx.isUnknown token then [token] else []) (ctx.resolveNominal token) := by
  unfold resolveNominal
  cases found : ctx.typeOf? token with
  | some d =>
      rw [isUnknown_of_some found]
      exact (Build.named_reports d).map fun _ => .pure _
  | none =>
      rw [isUnknown_of_none found]
      have refused : Build.Reports []
          (do return ⟨← Build.unsupported (some (tokenFault token)), false⟩ : Build Resolved) :=
        (Build.unsupported_reports _).map fun _ => .pure _
      cases token.isType
      · exact refused
      · exact (Build.report_reports (.unknownType token)).map fun _ => refused

theorem modified_reports (r : Resolved) (modifiers : List ModifierToken)
    {make : List (Modifier Symbol) → Build Symbol} (made : ∀ ms, Build.Reports [] (make ms)) :
    Build.Reports []
      (do match ← ctx.resolveModifiers modifiers with
          | .ok modifiers => return { r with symbol := ← make modifiers }
          | .error symbol => return { r with symbol }) := by
  refine (ctx.resolveModifiers_reports modifiers).after fun result => ?_
  cases result with
  | ok ms => exact (made ms).map fun _ => .pure _
  | error symbol => exact .pure _

theorem nominalTokens_conversions (room : Nat) (s : Signature) :
    nominalTokens (ctx.conversions (room + 1) s) =
      (s.parts.flatMap fun u => nominalTokens (ctx.conversions room u)) ++
        nominalTokens (ctx.ownConversions s) := by
  rw [conversions, nominalTokens_append, nominalTokens_flatMap]

theorem nominalTokens_around {s u : Signature} (single : s.parts = [u]) (room : Nat) :
    nominalTokens (ctx.conversions (room + 1) s) =
      nominalTokens (ctx.conversions room u) ++ nominalTokens (ctx.ownConversions s) := by
  rw [nominalTokens_conversions, single, List.flatMap_singleton]

theorem nominalTokens_nominal (ctx : Context) (token : Token) :
    nominalTokens (if ctx.isUnknown token then [⟨token, false⟩] else []) =
      if ctx.isUnknown token then [token] else [] := by
  cases ctx.isUnknown token <;> rfl

theorem nominalTokens_modified (ctx : Context) (modifiers : List ModifierToken) :
    nominalTokens ((ctx.convertedModifier? modifiers).toList.map (⟨·, true⟩)) = [] := by
  cases ctx.convertedModifier? modifiers <;> rfl

theorem resolveEach_reports {depth : Nat} {arguments : List Signature} {f : Signature → List Token}
    (each : ∀ a ∈ arguments, Build.Reports (f a) (ctx.resolveAt scope depth a)) :
    Build.Reports (arguments.flatMap f) (ctx.resolveEach scope depth arguments) := by
  induction arguments with
  | nil => exact .pure []
  | cons a arguments ih =>
      rw [resolveEach, List.flatMap_cons]
      obtain ⟨first, rest⟩ := List.forall_mem_cons.mp each
      exact first.bind fun r => (ih rest).map fun rs => .pure _

theorem resolveAt_reports (s : Signature) {depth room : Nat}
    (limit : depth + room = ctx.config.signatureDepth) :
    Build.Reports (nominalTokens (ctx.conversions room s)) (ctx.resolveAt scope depth s) := by
  induction s using Signature.parts_induction generalizing depth room with
  | made s ih =>
    -- out of room the step reports its depth only, and nothing counts as a conversion there
    cases room with
    | zero =>
        rw [resolveAt_of_deep (by omega), conversions]
        refine .after (Build.other_reports rfl) fun _ => ?_
        exact (Build.unsupported_reports _).map fun _ => .pure _
    | succ room =>
        have inside : depth < ctx.config.signatureDepth := by omega
        have parts (u : Signature) (member : u ∈ s.parts) :
            Build.Reports (nominalTokens (ctx.conversions room u))
              (ctx.resolveAt scope (depth + 1) u) :=
          ih u member (by omega)
        cases s with
        | element type =>
            rw [resolveAt, within_eq inside]
            exact (Module.special_reports _ _).map fun _ => .pure _
        | classType token | valueType token =>
            rw [resolveAt, within_eq inside, nominalTokens_conversions, ownConversions,
              nominalTokens_nominal]
            exact ctx.resolveNominal_reports token
        | parameter i =>
            rw [resolveAt, within_eq inside]
            exact (resolveParameter_reports scope i).map fun _ => .pure _
        | invalid fault =>
            rw [resolveAt, within_eq inside]
            exact (Build.unsupported_reports _).map fun _ => .pure _
        | pointer pointee modifiers =>
            rw [resolveAt, within_eq inside, nominalTokens_around rfl, ownConversions,
              nominalTokens_modified]
            exact (parts pointee List.mem_cons_self).bind fun r =>
              modified_reports r modifiers (Build.pointer_reports r.symbol)
        | szArray element modifiers =>
            rw [resolveAt, within_eq inside, nominalTokens_around rfl, ownConversions,
              nominalTokens_modified]
            exact (parts element List.mem_cons_self).bind fun r =>
              modified_reports r modifiers (Build.szArray_reports r.symbol)
        | array element rank dimensions =>
            rw [resolveAt, within_eq inside, nominalTokens_around rfl]
            exact (parts element List.mem_cons_self).bind fun r =>
              (Build.array_reports _ _ _ _ _).map fun _ => .pure _
        | byRef referenced =>
            rw [resolveAt, within_eq inside, nominalTokens_around rfl]
            exact (parts referenced List.mem_cons_self).bind fun r =>
              (Build.byRef_reports _).map fun _ => .pure _
        | generic base arguments =>
            rw [resolveAt, within_eq inside, nominalTokens_conversions, Signature.parts,
              List.flatMap_cons, List.append_assoc]
            have each := resolveEach_reports fun a member =>
              parts a (List.mem_cons_of_mem base member)
            exact (parts base List.mem_cons_self).bind fun generic => each.bind fun rs =>
              (ctx.instantiate_reports _ _ _).map fun _ => .pure _

theorem length_nominalTokens_iff (conversions : List Conversion) :
    (nominalTokens conversions).length = conversions.length ↔
      ∀ c ∈ conversions, c.inModifier = false := by
  rw [nominalTokens, List.length_map, List.length_filter_eq_length_iff]
  simp

/-- Resolving a signature reports the unknown nominal types, in order, and says nothing of unknown
types in modifiers. So there is a line for each conversion exactly if none is made in a modifier.
The last two parts say that the conversions counted are the ones that take place. -/
theorem resolve_reports (ctx : Context) (scope : List Symbol) (s : Signature) (p : Progress) :
    let conversions := ctx.conversions ctx.config.signatureDepth s
    let after := ((ctx.resolve scope s).run p).2
    after.unknown = p.unknown ++ nominalTokens conversions ∧
      (after.unknown.length = p.unknown.length + conversions.length ↔
        ∀ c ∈ conversions, c.inModifier = false) ∧
      (∀ token, Build.Yields
        (fun r => (∃ n, r.symbol = .unsupported n (some (.typeNotFound token))) ↔
          ctx.isUnknown token = true) (ctx.resolveNominal token)) ∧
      ∀ modifiers token, Build.Yields
        (fun r => (∃ n, r = .error (.unsupported n (some (.typeNotFound token)))) ↔
          ctx.convertedModifier? modifiers = some token) (ctx.resolveModifiers modifiers) := by
  intro conversions after
  have steps : Build.Reports (nominalTokens conversions) (ctx.resolve scope s) :=
    (resolveAt_reports s (Nat.zero_add _)).map fun _ => .pure _
  have lines : after.unknown = p.unknown ++ nominalTokens conversions := steps p
  refine ⟨lines, ?_, ctx.resolveNominal_converts, ctx.resolveModifiers_converts⟩
  rw [lines, List.length_append, Nat.add_left_cancel_iff, length_nominalTokens_iff]

/-- An array with an unknown type among its modifiers is turned into a fault, and the log is silent. -/
theorem resolve_modified_array_unreported :
    let missing : Token := ⟨0x02000099⟩
    let s : Signature := .szArray (.classType Sample.point.token) [⟨true, missing⟩]
    let (symbol, after) := (Sample.context.resolve [] s).run {}
    symbol = .unsupported 1 (some (.typeNotFound missing)) ∧
      Sample.context.conversions Sample.context.config.signatureDepth s = [⟨missing, true⟩] ∧
      after.unknown = [] :=
  ⟨rfl, rfl, rfl⟩

end Context

end ClrTypes
