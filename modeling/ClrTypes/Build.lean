import ClrTypes.Symbol.Basic

/-!
# Building symbols

Building a symbol draws serial numbers for its new nodes and reports events. Both are kept in a
value, so a building step is a function from progress to progress.
-/

namespace ClrTypes

inductive Event where
  | rankOneArray (element : String)
  | notNominal (type : String)
  | arityMismatch (name : String) (formals arguments : Nat)
  | overInterop (type : String)
  | tooDeep (limit : Nat)
  | unknownType (token : Token)
deriving DecidableEq, Repr

namespace Event

def text : Event → String
  | .rankOneArray element => "TRACE Rejecting rank-1 multi-dimensional array of " ++ element
  | .notNominal type => "DEBUG Cannot instantiate " ++ type ++ ", it is not a nominal type"
  | .arityMismatch name formals arguments =>
    "DEBUG Arity mismatch instantiating " ++ name ++ ": " ++ toString formals ++
      " formal parameters, " ++ toString arguments ++ " arguments"
  | .overInterop type =>
    "DEBUG Instantiation " ++ type ++ " is closed over an embedded interop type"
  | .tooDeep limit => "DEBUG Signature nesting exceeds " ++ toString limit ++ " levels"
  | .unknownType token => "DEBUG Signature refers to unknown type " ++ token.display

end Event

structure Progress where
  /-- The serial number of the next new node; all numbers in use are smaller. -/
  next : Nat := 0
  events : List Event := []
deriving Repr

namespace Progress

def log (p : Progress) : List Event :=
  p.events.reverse

def cleared (p : Progress) : Progress :=
  { p with events := [] }

end Progress

abbrev Build := StateM Progress

namespace Build

theorem run_pure {α : Type} (a : α) (p : Progress) : (pure a : Build α).run p = (a, p) := rfl

theorem run_bind {α β : Type} (step : Build α) (next : α → Build β) (p : Progress) :
    (step >>= next).run p = (next (step.run p).1).run (step.run p).2 := rfl

def serial : Build Nat :=
  modifyGet fun p => (p.next, { p with next := p.next + 1 })

def report (event : Event) : Build Unit :=
  modify fun p => { p with events := event :: p.events }

theorem run_serial (p : Progress) : serial.run p = (p.next, { p with next := p.next + 1 }) := rfl

theorem run_report (event : Event) (p : Progress) :
    (report event).run p = ((), { p with events := event :: p.events }) := rfl

def define (token : Token) (space name : String) (flags : Attributes) (assembly : Assembly)
    (parameters : List (Token × String)) (special : Option SpecialType) (isLocal : Bool) :
    Build Definition :=
  return {
    serial := ← serial
    token, space, name, flags, assembly, isLocal
    parameters := Definition.numbered parameters
    special := special <|> Definition.classify space name }

def named (d : Definition) : Build Symbol :=
  return .named (← serial) d

def parameter (p : Parameter) : Build Symbol :=
  return .parameter (← serial) p

def constructed (d : Definition) (bindings : List (Binding Symbol)) : Build Symbol :=
  return .constructed (← serial) d bindings

def unsupported (cause : Option Fault) : Build Symbol :=
  return .unsupported (← serial) cause

def illegal (underlying : Symbol) : Build Symbol :=
  return .illegal (← serial) underlying

end Build

end ClrTypes
