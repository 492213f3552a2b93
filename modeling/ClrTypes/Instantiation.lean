import ClrTypes.Legality
import ClrTypes.Substitution
import ClrTypes.Symbol.Display

namespace ClrTypes.Context

def construct (ctx : Context) (d : Definition) (formals : List Parameter)
    (arguments : List Symbol) (illegal : Bool) : Build Symbol :=
  match Substitution.ofLists formals arguments with
  | .error fault => Build.unsupported (some fault)
  | .ok m => do
    let constructed ← Build.constructed d m.bindings
    if illegal then
      Build.report (.overInterop (constructed.display ctx.hierarchy))
      Build.illegal constructed
    else return constructed

def instantiateDefinition (ctx : Context) (generic : Symbol) (d : Definition)
    (arguments : List Symbol) (flags : List Bool) : Build Symbol :=
  match ctx.formals d with
  | .error fault => Build.unsupported (some fault)
  | .ok formals =>
    if formals.length ≠ arguments.length then do
      Build.report
        (.arityMismatch (ctx.hierarchy.fullName d) formals.length arguments.length)
      Build.unsupported none
    else if formals.isEmpty then return generic
    else ctx.construct d formals arguments (ctx.isIllegal d arguments flags)

def instantiate (ctx : Context) (generic : Symbol) (arguments : List Symbol)
    (flags : List Bool) : Build Symbol := do
  if generic.isUnsupported then
    return generic
  else if arguments.any (·.isUnsupported) then
    Build.unsupported none
  else
    match generic.definition? with
    | some d => ctx.instantiateDefinition generic d arguments flags
    | none =>
      if arguments.isEmpty then return generic
      else
        Build.report (.notNominal (generic.display ctx.hierarchy))
        Build.unsupported (some .notSupported)

def unbound (ctx : Context) (s : Symbol) : Build Symbol :=
  match s with
  | .constructed _ d _ => if ctx.isGeneric d then Build.named d else return s
  | _ => return s

end ClrTypes.Context
