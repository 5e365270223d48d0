import InlineC.Lang.Check.Ops

/-!
# Declarations with linkage

Functions and objects with linkage are kept by name across the translation unit. A later
declaration must agree with the earlier ones: the types compatible (an array of unknown
length is completed, a prototype replaces a declaration without one), the linkage the
same (an `extern` declaration takes the linkage already given), and at most one
definition. An object declared at file scope without `extern` or an initializer is a
tentative definition: it is defined, as zero, unless an initializer comes later.

At the end of the unit the objects defined become the program's globals, what was used but
not defined is external, and the unused internal functions and objects are warned about.
-/

namespace InlineC.Lang.Check

/-- The type a later declaration leaves: a prototype over a declaration without one, and
an array's length when either gives it. -/
def mergeType (old new : CType) : CType :=
  match old, new with
  | .func _ _ _ true, .func _ _ _ false => old
  | .array t none, .array _ (some n) => .array t (some n)
  | .array _ (some n), .array t none => .array t (some n)
  | _, _ => new

/-- Declare a function with linkage, or define it, and bind its name in the innermost
scope. -/
def declareFunc (name : String) (ty : CType) (internal inline defining quiet constructor : Bool) :
    CM PUnit := do
  let st ← get
  if st.globals.contains name then err ("'" ++ name ++ "' redeclared as different kind of symbol")
  match st.funcs.get? name with
  | some f =>
    if f.defined && defining then err ("redefinition of '" ++ name ++ "'")
    if !f.ty.compatible ty then err ("conflicting types for '" ++ name ++ "'")
    if internal && !f.internal then
      err ("static declaration of '" ++ name ++ "' follows non-static declaration")
    let ty' := mergeType f.ty ty
    let f' := { f with
      ty := ty', defined := f.defined || defining, quiet := f.quiet || quiet,
      inline := f.inline || inline, constructor := f.constructor || constructor,
      header := f.header && st.header }
    set { st with funcs := st.funcs.insert name f' }
    bind name (.func name ty')
  | none =>
    let f : FuncInfo := {
      name, ty, internal, defined := defining, header := st.header, quiet, inline, constructor }
    set { st with funcs := st.funcs.insert name f, funcOrder := st.funcOrder.push name }
    bind name (.func name ty)

/-- Declare an object with linkage under its link name, or define it with its initial
contents, and bind its name in the innermost scope. `extern` says the declaration is not a
definition unless it has an initializer. -/
def declareGlobal (name link : String) (ty : CType) (internal isExtern : Bool)
    (init : Option (List GInit)) (align : Nat) (quiet const : Bool) : CM PUnit := do
  let st ← get
  if st.funcs.contains link then err ("'" ++ name ++ "' redeclared as different kind of symbol")
  let defining := init.isSome || !isExtern
  match st.globals.get? link with
  | some g =>
    if !g.ty.compatible ty then err ("conflicting types for '" ++ name ++ "'")
    if init.isSome && !g.init.isEmpty then err ("redefinition of '" ++ name ++ "'")
    if internal && !g.internal then
      err ("static declaration of '" ++ name ++ "' follows non-static declaration")
    if !internal && g.internal && !isExtern then
      err ("non-static declaration of '" ++ name ++ "' follows static declaration")
    let ty' := mergeType g.ty ty
    let g' := { g with
      ty := ty', defined := g.defined || defining, init := init.getD g.init,
      align := max g.align align, quiet := g.quiet || quiet, header := g.header && st.header }
    set { st with globals := st.globals.insert link g' }
    bind name (.global link ty')
  | none =>
    let g : GlobalInfo := {
      name := link, ty, internal, defined := defining, init := init.getD [], align,
      header := st.header, quiet, const }
    set { st with globals := st.globals.insert link g, globalOrder := st.globalOrder.push link }
    bind name (.global link ty)

/-- The globals, external names and constructors of the unit, with the warnings about
what internal is never used. -/
def finishUnit : CM Program := do
  let st ← get
  let mut globals : Array Global := #[]
  let mut externals : Array String := #[]
  let mut system : Array String := #[]
  for n in st.globalOrder do
    match st.globals.get? n with
    | none => pure ()
    | some g =>
      if g.defined then
        let ty ← match g.ty with
          | .array t none =>
            if g.init.isEmpty then warn ""
            pure (CType.array t (some 1))
          | t => pure t
        let size ← match ty.size? st.records with
          | some s => pure s
          | none => err ("storage size of '" ++ g.name ++ "' isn't known")
        let align := max g.align (ty.align st.records)
        let init := if g.init.isEmpty then [GInit.bytes 0 (List.replicate size 0)] else g.init
        globals := globals.push { name := n, size, align, init, exported := !g.internal }
        if g.internal && !g.used && !g.header && !g.quiet then
          warn (if g.const then "unused-const-variable" else "unused-variable")
      else if g.used then
        externals := externals.push n
        if g.header then system := system.push n
  let mut constructors : Array String := #[]
  for n in st.funcOrder do
    match st.funcs.get? n with
    | none => pure ()
    | some f =>
      if f.defined then
        if f.constructor then constructors := constructors.push n
        if f.internal && !f.used && !f.header && !f.quiet && !f.constructor && !f.inline then
          warn "unused-function"
      else if f.used then
        if f.internal && !f.header then pedwarn
        externals := externals.push n
        if f.header || (libraryPrototype n).isSome then system := system.push n
  pure {
    functions := st.defs, globals, strings := st.strings, constructors := constructors.toList,
    externals := externals.toList, system := system.toList }

end InlineC.Lang.Check
