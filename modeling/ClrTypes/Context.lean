import ClrTypes.Module

namespace ClrTypes

structure Context where
  home : Module
  hierarchy : Hierarchy
  config : Config

namespace Context

def formals (ctx : Context) (d : Definition) : Except Fault (List Parameter) :=
  ctx.hierarchy.formals ctx.config.nestingDepth d

def isGeneric (ctx : Context) (d : Definition) : Bool :=
  match ctx.formals d with
  | .ok formals => !formals.isEmpty
  | .error _ => false

end Context

end ClrTypes
