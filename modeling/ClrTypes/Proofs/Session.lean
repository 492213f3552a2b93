import ClrTypes.Proofs.Formation
import ClrTypes.Proofs.Recording

namespace ClrTypes

inductive Operation where
  | array (element : Symbol) (rank : UInt32) (dimensions : List Dimension)
    (modifiers : List (Modifier Symbol))
  | szArray (element : Symbol) (modifiers : List (Modifier Symbol))
  | pointer (pointee : Symbol) (modifiers : List (Modifier Symbol))
  | byRef (referenced : Symbol)
  | unsupported (cause : Option Fault)
  | unbound (s : Symbol)
  | instantiate (generic : Symbol) (arguments : List Symbol) (flags : List Bool)
  | resolve (scope : List Symbol) (signature : Signature)
  | special (type : SpecialType)
  | systemType
  | base (s : Symbol)
  | interfaces (s : Symbol)
  | container (s : Symbol)

namespace Operation

def operands : Operation → List Symbol
  | .array s .. | .szArray s _ | .pointer s _ | .byRef s | .unbound s | .base s | .interfaces s
  | .container s => [s]
  | .instantiate generic arguments _ => generic :: arguments
  | .resolve scope _ => scope
  | .unsupported _ | .special _ | .systemType => []

def run (ctx : Context) : Operation → Build (List Symbol)
  | .array s rank dimensions modifiers =>
    return [← Build.array ctx.hierarchy s rank dimensions modifiers]
  | .szArray s modifiers => return [← Build.szArray s modifiers]
  | .pointer s modifiers => return [← Build.pointer s modifiers]
  | .byRef s => return [← Build.byRef s]
  | .unsupported cause => return [← Build.unsupported cause]
  | .unbound s => return [← ctx.unbound s]
  | .instantiate generic arguments flags => return [← ctx.instantiate generic arguments flags]
  | .resolve scope signature => return [← ctx.resolve scope signature]
  | .special type => return [← ctx.home.special type]
  | .systemType => return [← ctx.home.systemType]
  | .base s => return (← ctx.hierarchy.baseOf? s).toList
  | .interfaces s => return (← ctx.hierarchy.interfacesOf? s).getD []
  | .container s => return (← ctx.hierarchy.containerOf? s).toList

end Operation

structure Session where
  hierarchy : Hierarchy
  progress : Progress
  symbols : List Symbol

namespace Session

def fresh : Session := ⟨.empty, {}, []⟩

def Knows (σ : Session) (s : Symbol) : Prop :=
  s ∈ σ.symbols ∨ (∃ n d, s = .named n d) ∨ ∃ n p, s = .parameter n p

/-- The definition, or one nested in it, has been given arguments. -/
def Uses (σ : Session) (d : Definition) : Prop :=
  ∃ s ∈ σ.symbols, ∃ n e bindings, Symbol.IsPartOf (.constructed n e bindings) s ∧
    ∃ chain, σ.hierarchy.IsChain e chain ∧ ∃ c ∈ chain, c.serial = d.serial

/-- One step of a session. Operations only take what is known, in any context that sees what is
recorded; a container is only recorded for a definition that is not yet in use, and only dropped
where nothing in it is. -/
inductive Step : Session → Session → Prop
  | operate {σ : Session} (ctx : Context) (operation : Operation) :
      ctx.hierarchy = σ.hierarchy → ctx.home.IsLoaded → (∀ s ∈ operation.operands, σ.Knows s) →
      Step σ ⟨σ.hierarchy, ((operation.run ctx).run σ.progress).2,
        σ.symbols ++ ((operation.run ctx).run σ.progress).1⟩
  | recordBase {σ : Session} {h : Hierarchy} (d : Definition) (base : Symbol) : σ.Knows base →
      σ.hierarchy.setBase d base = .ok h → Step σ { σ with hierarchy := h }
  | recordInterface {σ : Session} (d : Definition) (interface : Symbol) : σ.Knows interface →
      Step σ { σ with hierarchy := (σ.hierarchy.addInterface d interface).2 }
  | recordContainer {σ : Session} {h : Hierarchy} (d container : Definition) : ¬ σ.Uses d →
      σ.hierarchy.setContainer d container = .ok h → Step σ { σ with hierarchy := h }
  | dropContainer {σ : Session} (container : Definition) :
      (∀ d c, σ.hierarchy.container? d = some c → c.serial = container.serial → ¬ σ.Uses d) →
      Step σ { σ with hierarchy := σ.hierarchy.drop container }

def IsReachable (σ : Session) : Prop :=
  Relation.ReflTransGen Step fresh σ

structure Sound (σ : Session) : Prop where
  symbols : ∀ s ∈ σ.symbols, s.WellFormed σ.hierarchy
  bases : ∀ d base, σ.hierarchy.base? d = some base → σ.Knows base
  interfaces : ∀ d, ∀ interface ∈ σ.hierarchy.interfaces d, σ.Knows interface

variable {σ σ' : Session}

theorem Sound.known (sound : σ.Sound) {s : Symbol} (known : σ.Knows s) :
    s.WellFormed σ.hierarchy := by
  rcases known with answered | ⟨n, d, rfl⟩ | ⟨n, p, rfl⟩
  · exact sound.symbols s answered
  · exact Symbol.wellFormed_named n d
  · exact Symbol.wellFormed_parameter n p

theorem Knows.more {s : Symbol} (known : σ.Knows s) (h : Hierarchy) (p : Progress)
    (more : List Symbol) : Knows ⟨h, p, σ.symbols ++ more⟩ s :=
  known.imp_left (List.mem_append_left more)

end Session

theorem Operation.run_wellFormed {ctx : Context} (loaded : ctx.home.IsLoaded)
    (bases : ∀ d base, ctx.hierarchy.base? d = some base → base.WellFormed ctx.hierarchy)
    (interfaces : ∀ d, ∀ interface ∈ ctx.hierarchy.interfaces d,
      interface.WellFormed ctx.hierarchy)
    (operation : Operation) (known : ∀ s ∈ operation.operands, s.WellFormed ctx.hierarchy) :
    Build.Yields (fun ts => ∀ t ∈ ts, t.WellFormed ctx.hierarchy) (operation.run ctx) := by
  have single {x : Build Symbol} (yields : Build.Yields (Symbol.WellFormed ctx.hierarchy) x) :
      Build.Yields (fun ts => ∀ t ∈ ts, t.WellFormed ctx.hierarchy) (do return [← x]) :=
    yields.bind fun t whole => .pure (by simpa using whole)
  have whole (s : Symbol) (operand : operation.operands = [s]) : s.WellFormed ctx.hierarchy :=
    known s (by simp [operand])
  cases operation with
  | array s rank dimensions modifiers =>
      exact single (Build.array_wellFormed _ (whole s rfl) rank dimensions modifiers)
  | szArray s modifiers => exact single (Build.szArray_wellFormed (whole s rfl) modifiers)
  | pointer s modifiers => exact single (Build.pointer_wellFormed (whole s rfl) modifiers)
  | byRef s => exact single (Build.byRef_wellFormed (whole s rfl))
  | unsupported cause => exact single (Build.unsupported_wellFormed cause)
  | unbound s => exact single (Context.unbound_wellFormed (whole s rfl))
  | instantiate generic arguments flags =>
      obtain ⟨first, rest⟩ := List.forall_mem_cons.mp known
      exact single (Context.instantiate_wellFormed first rest flags)
  | resolve scope signature => exact single (Context.resolve_wellFormed loaded known signature)
  | special type =>
      exact single ((Module.special_relates loaded type).mono fun _ _ same =>
        Symbol.wellFormed_of_sameRoot same).yields
  | systemType =>
      exact single ((Module.systemType_relates loaded).mono fun _ _ same =>
        Symbol.wellFormed_of_sameRoot same).yields
  | base s =>
      exact (Hierarchy.baseOf?_wellFormed (whole s rfl) bases).bind fun r all =>
        .pure (by simpa using all)
  | interfaces s =>
      refine (Hierarchy.interfacesOf?_wellFormed (whole s rfl) interfaces).bind fun r all => ?_
      cases r with
      | none => exact .pure (by simp)
      | some ts => exact .pure (all ts rfl)
  | container s =>
      exact (Hierarchy.containerOf?_wellFormed (whole s rfl)).bind fun r all =>
        .pure (by simpa using all)

namespace Session

variable {σ σ' : Session}

theorem Sound.relink (sound : σ.Sound) {h : Hierarchy}
    (links : ∀ d, σ.Uses d → h.container? d = σ.hierarchy.container? d)
    (bases : ∀ d base, h.base? d = some base → σ.Knows base)
    (interfaces : ∀ d, ∀ interface ∈ h.interfaces d, σ.Knows interface) :
    Sound { σ with hierarchy := h } := by
  refine ⟨fun s member => ?_, bases, interfaces⟩
  refine (sound.symbols s member).of_chains fun n e bindings part chain chained => ?_
  refine chained.congr fun c inside => links c ?_
  exact ⟨s, member, n, e, bindings, part, chain, chained, c, inside, rfl⟩

theorem Uses.congr {d e : Definition} (used : σ.Uses d) (same : d.serial = e.serial) :
    σ.Uses e := by
  obtain ⟨s, member, n, top, bindings, part, chain, chained, c, inside, found⟩ := used
  exact ⟨s, member, n, top, bindings, part, chain, chained, c, inside, found.trans same⟩

theorem Sound.step (sound : σ.Sound) (step : Step σ σ') : σ'.Sound := by
  cases step with
  | operate ctx operation same loaded operands =>
      have whole : ∀ s ∈ operation.operands, s.WellFormed ctx.hierarchy := by
        intro s member
        rw [same]
        exact sound.known (operands s member)
      have bases : ∀ d base, ctx.hierarchy.base? d = some base →
          base.WellFormed ctx.hierarchy := by
        rw [same]
        exact fun d base recorded => sound.known (sound.bases d base recorded)
      have interfaces : ∀ d, ∀ interface ∈ ctx.hierarchy.interfaces d,
          interface.WellFormed ctx.hierarchy := by
        rw [same]
        exact fun d interface member => sound.known (sound.interfaces d interface member)
      have answered := operation.run_wellFormed loaded bases interfaces whole σ.progress
      rw [same] at answered
      refine ⟨?_, ?_, ?_⟩
      · intro s member
        rcases List.mem_append.mp member with old | new
        · exact sound.symbols s old
        · exact answered s new
      · intro d base recorded
        exact (sound.bases d base recorded).more _ _ _
      · intro d interface member
        exact (sound.interfaces d interface member).more _ _ _
  | recordBase d base known recorded =>
      have relations := Hierarchy.relations_setBase recorded
      refine sound.relink (fun e _ => Hierarchy.container?_setBase recorded e) ?_ ?_
      · intro e base' found
        rw [Hierarchy.base?, relations] at found
        split at found
        · obtain rfl := Option.some.inj found
          exact known
        · exact sound.bases e base' found
      · intro e interface member
        rw [Hierarchy.interfaces, relations] at member
        exact sound.interfaces e interface (by split at member <;> exact member)
  | recordInterface d interface known =>
      have relations := σ.hierarchy.relations_addInterface d interface
      refine sound.relink (fun e _ => σ.hierarchy.container?_addInterface d interface e) ?_ ?_
      · intro e base found
        rw [Hierarchy.base?, relations] at found
        exact sound.bases e base (by split at found <;> exact found)
      · intro e interface' member
        rw [Hierarchy.interfaces, relations] at member
        split at member
        · rcases List.mem_append.mp member with old | new
          · exact sound.interfaces e interface' old
          · obtain rfl := List.mem_singleton.mp new
            exact known
        · exact sound.interfaces e interface' member
  | recordContainer d container unused recorded =>
      have relations := Hierarchy.relations_setContainer recorded
      refine sound.relink (fun e used => ?_) ?_ ?_
      · -- `d` is not in use, so the chains of constructed types do not lead through it
        have distinct : e.serial ≠ d.serial := fun same => unused (used.congr same)
        rw [Hierarchy.container?_setContainer recorded, if_neg distinct]
      · intro e base found
        rw [Hierarchy.base?, relations] at found
        exact sound.bases e base (by split at found <;> exact found)
      · intro e interface member
        rw [Hierarchy.interfaces, relations] at member
        exact sound.interfaces e interface (by split at member <;> exact member)
  | dropContainer container unused =>
      refine sound.relink (fun e used => ?_) sound.bases sound.interfaces
      rw [Hierarchy.container?_drop]
      cases inside : σ.hierarchy.container? e with
      | none => rfl
      | some c =>
          have kept : c.serial ≠ container.serial := fun same => unused e c inside same used
          simp [kept]

theorem IsReachable.sound (reachable : σ.IsReachable) : σ.Sound := by
  induction reachable with
  | refl => exact ⟨by simp [fresh], by simp [fresh, Hierarchy.empty, Hierarchy.base?,
      Hierarchy.relations], by simp [fresh, Hierarchy.empty, Hierarchy.interfaces,
      Hierarchy.relations]⟩
  | tail _ step ih => exact ih.step step

/-- All symbols of a session are well-formed at all times, however it goes on. -/
theorem reachable_wellFormed (reachable : σ.IsReachable) :
    ∀ s ∈ σ.symbols, s.WellFormed σ.hierarchy :=
  reachable.sound.symbols

end Session

namespace Sample

def viewOfShape : Symbol := .constructed 0 view
  (Binding.align (box.parameters ++ view.parameters) [.named 0 point, .named 1 shape])

def boxOfPoint : Symbol := .constructed 1 box
  (Binding.align box.parameters [.named 0 point])

def session : Session := ⟨context.hierarchy, { next := 2 }, [viewOfShape, boxOfPoint]⟩

theorem session_isReachable : session.IsReachable := by
  have nested : Session.Step .fresh ⟨context.hierarchy, {}, []⟩ := by
    refine .recordContainer view box ?_ rfl
    rintro ⟨s, member, -⟩
    simp [Session.fresh] at member
  have instantiated : Session.Step ⟨context.hierarchy, {}, []⟩
      ⟨context.hierarchy, { next := 1 }, [viewOfShape]⟩ := by
    refine .operate context (.instantiate (.named 0 view) [.named 0 point, .named 1 shape] [])
      rfl isLoaded ?_
    intro s member
    simp only [Operation.operands, List.mem_cons, List.not_mem_nil, or_false] at member
    rcases member with rfl | rfl | rfl <;> exact .inr (.inl ⟨_, _, rfl⟩)
  have outward : Session.Step ⟨context.hierarchy, { next := 1 }, [viewOfShape]⟩ session := by
    refine .operate context (.container viewOfShape) rfl isLoaded ?_
    intro s member
    exact .inl member
  exact ((Relation.ReflTransGen.single nested).tail instantiated).tail outward

end Sample

theorem Session.sample_wellFormed : Sample.viewOfShape.WellFormed Sample.context.hierarchy ∧
    Sample.boxOfPoint.WellFormed Sample.context.hierarchy := by
  have whole := reachable_wellFormed Sample.session_isReachable
  exact ⟨whole _ List.mem_cons_self, whole _ (List.mem_cons_of_mem _ List.mem_cons_self)⟩

end ClrTypes
