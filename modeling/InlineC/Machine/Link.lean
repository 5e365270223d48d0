import InlineC.Machine.Lower
import InlineC.Lang.Fold

/-!
# Linking

A checked program becomes a library. The code that can run is found first, as an
optimizing compiler and the linker find it: from every function other code may call, every
constructor and every global's initial contents, following the symbols reached code
refers to. A branch whose condition is a constant is not followed when it cannot be taken,
since the compiler removes it; so a call in dead code needs no definition.

Every function and global the program defines gets a number, and so does every function
it refers to without defining, which the machine provides. A name that reached code refers
to, that the program does not define, and that neither the system libraries nor the machine
define is unresolved: loading the library fails on it.
-/

namespace InlineC.Machine

open InlineC.Lang

/-- Whether a condition is a constant of the given truth. -/
def constantly (c : TExpr) (truth : Bool) : Bool :=
  match foldInt c with
  | some v => (v != 0) == truth
  | none => false

mutual

/-- The symbols evaluating an expression may refer to. -/
def exprRefs : Nat → TExpr → List Sym
  | 0, _ => []
  | fuel + 1, e =>
    match e with
    | .sym s _ => [s]
    | .setLocal _ a | .load _ a | .loadBits _ a .. | .zero _ a | .conv _ _ _ a | .unary _ _ _ a
    | .truth _ a | .vaStart a | .vaArg a .. | .alloca a => exprRefs fuel a
    | .store _ a b | .storeBits _ a _ _ b | .copy _ a b | .binary _ _ _ a b | .seq a b =>
      exprRefs fuel a ++ exprRefs fuel b
    | .land a b => exprRefs fuel a ++ (if constantly a false then [] else exprRefs fuel b)
    | .lor a b => exprRefs fuel a ++ (if constantly a true then [] else exprRefs fuel b)
    | .cond c a b =>
      exprRefs fuel c ++ (if constantly c false then [] else exprRefs fuel a) ++
        (if constantly c true then [] else exprRefs fuel b)
    | .call f args .. => exprRefs fuel f ++ exprListRefs fuel args
    | .builtin _ args => exprListRefs fuel args
    | .stmts body r => stmtListRefs fuel body ++ exprRefs fuel r
    | _ => []

/-- The symbols a list of expressions may refer to. -/
def exprListRefs : Nat → List TExpr → List Sym
  | 0, _ => []
  | _, [] => []
  | fuel + 1, e :: rest => exprRefs fuel e ++ exprListRefs fuel rest

/-- The symbols running a statement may refer to. -/
def stmtRefs : Nat → TStmt → List Sym
  | 0, _ => []
  | fuel + 1, s =>
    match s with
    | .expr e | .gotoAddr e => exprRefs fuel e
    | .block ss cs => stmtListRefs fuel ss ++ exprListRefs fuel cs
    | .ite c t e =>
      exprRefs fuel c ++ (if constantly c false then [] else stmtRefs fuel t) ++
        (if constantly c true then [] else stmtRefs fuel e)
    | .loop c body step testFirst =>
      let dead := testFirst && (c.map (constantly · false)).getD false
      (c.map (exprRefs fuel)).getD [] ++
        (if dead then [] else stmtRefs fuel body ++ (step.map (exprRefs fuel)).getD [])
    | .ret e => (e.map (exprRefs fuel)).getD []
    | .switch e _ _ _ body => exprRefs fuel e ++ stmtRefs fuel body
    | _ => []

/-- The symbols running statements may refer to. -/
def stmtListRefs : Nat → List TStmt → List Sym
  | 0, _ => []
  | _, [] => []
  | fuel + 1, s :: rest => stmtRefs fuel s ++ stmtListRefs fuel rest

end

/-- The depth of nesting reference collection follows. -/
def refDepth : Nat := 100000

/-- The names of the functions and objects a symbol list refers to. -/
def symNames (ss : List Sym) : List String :=
  ss.filterMap fun
    | .global n | .func n => some n
    | .string _ => none

/-- The names reached from the roots, following function bodies and global contents. -/
def reachable (p : Program) : List String := Id.run do
  let bodies : Std.HashMap String (List String) :=
    p.functions.foldl (fun m f => m.insert f.name (symNames (stmtRefs refDepth f.body))) {}
  let inits : Std.HashMap String (List String) :=
    p.globals.foldl (fun m g => m.insert g.name (g.init.filterMap fun
      | .addr _ (.global n) _ | .addr _ (.func n) _ => some n
      | _ => none)) {}
  let roots := (p.functions.toList.filter (·.exported)).map (·.name) ++ p.constructors ++
    p.globals.toList.map (·.name)
  let mut seen : Std.HashSet String := {}
  let mut order : Array String := #[]
  let mut work := roots
  for _ in [0:p.functions.size + p.globals.size + p.externals.length + roots.length + 1] do
    match work with
    | [] => break
    | _ =>
      let mut next : List String := []
      for n in work do
        if !seen.contains n then
          seen := seen.insert n
          order := order.push n
          next := next ++ (bodies.getD n []) ++ (inits.getD n [])
      work := next
  pure order.toList

/-- The objects the machine itself defines for the system libraries. -/
def machineObjects : List (String × Nat) := [("stdin", 8), ("stdout", 8), ("stderr", 8)]

/-- Link a checked program: its library, given the names of the functions the machine
provides. -/
def link (p : Program) (provides : String → Bool) : Except String Library := do
  let funcIdx : Std.HashMap String Nat :=
    p.functions.zipIdx.foldl (fun m (f, i) => m.insert f.name i) {}
  let externObjects := machineObjects.filter fun (n, _) => p.externals.contains n
  let globals : Array GlobalCode :=
    p.globals.map (fun g => {
      name := g.name, size := g.size, align := g.align, init := [], exported := g.exported }) ++
    (externObjects.map fun (n, size) => { name := n, size, align := 8, init := [], exported := false }).toArray
  let globalIdx : Std.HashMap String Nat :=
    globals.zipIdx.foldl (fun m (g, i) => m.insert g.name i) {}
  let externFns := p.externals.filter fun n => !globalIdx.contains n
  let provided := externFns.toArray
  let providedIdx : Std.HashMap String Nat :=
    provided.zipIdx.foldl (fun m (n, i) => m.insert n i) {}
  let resolve : Sym → Ref := fun
    | .func n =>
      match funcIdx.get? n with
      | some i => .func i
      | none =>
        match globalIdx.get? n with
        | some i => .global i
        | none => .provided (providedIdx.getD n 0)
    | .global n =>
      match globalIdx.get? n with
      | some i => .global i
      | none =>
        match funcIdx.get? n with
        | some i => .func i
        | none => .provided (providedIdx.getD n 0)
    | .string i => .string i
  let code ← p.functions.mapM (lowerFunction resolve)
  let globals := globals.mapIdx fun i g =>
    match p.globals[i]? with
    | some pg => { g with init := pg.init.map fun
        | .bytes off data => .bytes off data
        | .addr off s addend => .addr off (resolve s) addend }
    | none => g
  let reached := reachable p
  let unresolved := reached.filter fun n =>
    !funcIdx.contains n && !globalIdx.contains n && !p.system.contains n && !provides n
  let constructors := p.constructors.filterMap funcIdx.get?
  pure { functions := code, globals, strings := p.strings, provided, constructors, unresolved }

end InlineC.Machine
