import InlineC.Lang.Check.Library
import InlineC.Lang.Core
import InlineC.Lang.Fold

/-!
# Reaching the end of a function

Whether control may fall off the end of a statement, for the warning about a function
that returns a value. The analysis is the usual conservative one: a `return` or a `goto`
does not fall through; a block falls through when its statements do, up to one that does
not; an `if` when either branch does (only the taken one when the condition is constant);
a loop whose condition is constantly true falls through only by a `break`; a call to a
function that never returns does not fall through; anything else does.
-/

namespace InlineC.Lang

mutual

/-- Whether a statement contains a `break` that leaves the statement itself (not one of a
nested loop or switch). -/
def breaksOut : Nat → TStmt → Bool
  | 0, _ => true
  | fuel + 1, s =>
    match s with
    | .brk => true
    | .block ss _ => breaksOutList fuel ss
    | .ite _ t e => breaksOut fuel t || breaksOut fuel e
    | _ => false

/-- Whether a statement of a list breaks out. -/
def breaksOutList : Nat → List TStmt → Bool
  | 0, _ => true
  | _, [] => false
  | fuel + 1, s :: rest => breaksOut fuel s || breaksOutList fuel rest

end

/-- Whether an expression statement never returns: a call to a function that does not. -/
def noReturnCall : TExpr → Bool
  | .call (.sym (.func n) _) .. => noReturnFunction n
  | .builtin .trap _ | .builtin .unreachable _ => true
  | .seq _ b => noReturnCall b
  | _ => false

/-- Whether a statement is a label a jump may reach. -/
def isLabel : TStmt → Bool
  | .label _ | .caseLabel _ => true
  | _ => false

mutual

/-- Whether control may fall off the end of a statement. -/
def mayFallThrough : Nat → TStmt → Bool
  | 0, _ => true
  | fuel + 1, s =>
    match s with
    | .ret _ | .goto _ | .gotoAddr _ => false
    | .expr e => !noReturnCall e
    | .block ss _ => listFallsThrough fuel ss true
    | .ite c t e =>
      match foldInt c with
      | some v => if v != 0 then mayFallThrough fuel t else mayFallThrough fuel e
      | none => mayFallThrough fuel t || mayFallThrough fuel e
    | .loop c body _ _ =>
      let forever := match c with
        | none => true
        | some c => match foldInt c with
          | some v => v != 0
          | none => false
      !forever || breaksOut 64 body
    | .switch _ _ _ dflt body =>
      dflt.isNone || breaksOut 64 body || mayFallThrough fuel body
    | _ => true

/-- Whether control may fall off the end of a list of statements, given whether it may
reach the first one. -/
def listFallsThrough : Nat → List TStmt → Bool → Bool
  | 0, _, _ => true
  | _, [], reach => reach
  | fuel + 1, s :: rest, reach =>
    let reach := reach || isLabel s || (match s with
      | .block (first :: _) _ => isLabel first
      | _ => false)
    listFallsThrough fuel rest (reach && mayFallThrough fuel s)

end

end InlineC.Lang
