import ClrTypes.Formation
import ClrTypes.Instantiation

namespace ClrTypes

structure Resolved where
  symbol : Symbol
  isLocal : Bool

namespace Context

def tokenFault (token : Token) : Fault :=
  if token.isType then .typeNotFound token else .malformed (.notAType token)

def typeOf? (ctx : Context) (token : Token) : Option Definition :=
  if token.isType then ctx.home.definition? token else none

def resolveNominal (ctx : Context) (token : Token) : Build Resolved :=
  match ctx.typeOf? token with
  | some d => return ⟨← Build.named d, d.isLocal⟩
  | none => do
    if token.isType then Build.report (.unknownType token)
    return ⟨← Build.unsupported (some (tokenFault token)), false⟩

/-- Resolves modifiers up to the first that names no known type, and then gives the symbol that
takes the place of the modified type. -/
def resolveModifiers (ctx : Context) :
    List ModifierToken → Build (Except Symbol (List (Modifier Symbol)))
  | [] => return .ok []
  | ⟨required, token⟩ :: rest =>
    match ctx.typeOf? token with
    | none => return .error (← Build.unsupported (some (tokenFault token)))
    | some d => do
      let type ← Build.named d
      return (← ctx.resolveModifiers rest).map (⟨required, type⟩ :: ·)

def within (ctx : Context) (depth : Nat) (step : Build Resolved) : Build Resolved :=
  if depth < ctx.config.signatureDepth then step
  else do
    Build.report (.tooDeep ctx.config.signatureDepth)
    return ⟨← Build.unsupported (some (.recursionLimit ctx.config.signatureDepth)), false⟩

def resolveParameter (scope : List Symbol) (index : UInt32) : Build Symbol :=
  match scope[index.toNat]? with
  | some symbol => return symbol
  | none => Build.unsupported (some (.malformed (.parameterOutOfRange index scope.length)))

mutual

/-- Resolves a signature that stands at a given depth. The symbols in `scope` are what the parameters
of the signature refer to. -/
def resolveAt (ctx : Context) (scope : List Symbol) (depth : Nat) : Signature → Build Resolved
  | .element type => ctx.within depth do
    return ⟨← ctx.home.special type.special, false⟩
  | .classType token => ctx.within depth (ctx.resolveNominal token)
  | .valueType token => ctx.within depth (ctx.resolveNominal token)
  | .parameter index => ctx.within depth do
    return ⟨← resolveParameter scope index, false⟩
  | .pointer pointee modifiers => ctx.within depth do
    let inner ← resolveAt ctx scope (depth + 1) pointee
    match ← ctx.resolveModifiers modifiers with
    | .ok modifiers => return { inner with symbol := ← Build.pointer inner.symbol modifiers }
    | .error symbol => return { inner with symbol }
  | .szArray element modifiers => ctx.within depth do
    let inner ← resolveAt ctx scope (depth + 1) element
    match ← ctx.resolveModifiers modifiers with
    | .ok modifiers => return { inner with symbol := ← Build.szArray inner.symbol modifiers }
    | .error symbol => return { inner with symbol }
  | .array element rank dimensions => ctx.within depth do
    let inner ← resolveAt ctx scope (depth + 1) element
    let symbol ← Build.array ctx.hierarchy inner.symbol rank dimensions []
    return { inner with symbol }
  | .byRef referenced => ctx.within depth do
    let inner ← resolveAt ctx scope (depth + 1) referenced
    return { inner with symbol := ← Build.byRef inner.symbol }
  | .generic base arguments => ctx.within depth do
    let generic ← resolveAt ctx scope (depth + 1) base
    let resolved ← resolveEach ctx scope (depth + 1) arguments
    let flags := resolved.map (·.isLocal)
    let symbol ← ctx.instantiate generic.symbol (resolved.map (·.symbol)) flags
    return ⟨symbol, flags.any id⟩
  | .invalid fault => ctx.within depth do
    return ⟨← Build.unsupported (some fault), false⟩

def resolveEach (ctx : Context) (scope : List Symbol) (depth : Nat) :
    List Signature → Build (List Resolved)
  | [] => return []
  | signature :: rest => do
    let resolved ← resolveAt ctx scope depth signature
    return resolved :: (← resolveEach ctx scope depth rest)

end

def resolve (ctx : Context) (scope : List Symbol) (signature : Signature) : Build Symbol :=
  return (← ctx.resolveAt scope 0 signature).symbol

def resolveAll (ctx : Context) (scope : List Symbol) (signatures : List Signature) :
    Build (List Symbol) :=
  signatures.mapM (ctx.resolve scope)

end Context

end ClrTypes
