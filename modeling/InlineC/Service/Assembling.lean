import InlineC.Service.Naming
import InlineC.Assembly.Assembler

/-!
# Requests about declarations and assemblies

A single declaration is described with its rendering; an assembler runs a script of
additions and queries and answers each step.
-/

namespace InlineC.Service

open Document

/-- The fields that describe a declaration, without its rendering. -/
def declarationFields (d : Declaration) : List (String × Document) :=
  let base := [("kind", Document.str d.kind.name), ("name", .str d.name),
    ("symbols", strings d.symbols)]
  base ++ match d with
    | .managed f => [("doc", .str f.doc), ("raw", .bool f.raw), ("table_entry", .str d.tableEntry)]
    | .capture c => [("doc", .str ""), ("slot", .str c.slot), ("table_entry", .str d.tableEntry)]
    | .dispatch dsp => [("capture", .str dsp.capture.name), ("returns", strings dsp.returns)]
    | _ => []

/-- A declaration with its rendering. -/
def answerDeclaration (d : Declaration) : Document :=
  .record (declarationFields d ++
    [("render", match d.render with
      | .ok s => .str s
      | .error e => .record (reportFields e.report))])

/-- Answer the request to describe one declaration. -/
def answerUnit (req : Document) : Document :=
  match (req.given? "unit").bind decodeDeclaration with
  | some (.ok d) => answerDeclaration d
  | some (.error e) => failure e
  | none => badInput "unknown unit kind"

/-- The answer to an addition that failed to construct or collided. -/
inductive AddFailure where
  | declaration (e : DeclError)
  | collision (e : CollisionError)

/-- A refused addition is reported as its declaration error or its collision is. -/
instance : Failure AddFailure where
  report
    | .declaration e => Failure.report e
    | .collision e => Failure.report e

/-- Run one assembler step: the answer and the assembler after it. -/
def assemblyStep (s : Assembler) (step : Document) : Document × Assembler :=
  match step.given? "add" with
  | some spec =>
    match decodeDeclaration spec with
    | none => (badInput "unknown unit kind", s)
    | some (.error e) => (failure (AddFailure.declaration e), s)
    | some (.ok d) =>
      match s.add d with
      | .ok s' => (okAnswer, s')
      | .error e => (failure (AddFailure.collision e), s)
  | none =>
    let a := s.assembly
    match step.text "do" with
    | "render" =>
      let (r, s') := s.render
      (outcome (fun t => .record [("source", .str t)]) r, s')
    | "render_without_revision" =>
      let (r, s') := s.renderWithoutRevision
      (outcome (fun t => .record [("source", .str t)]) r, s')
    | "revision" =>
      let (r, s') := s.revision
      (outcome (fun n => .record [("revision", int n)]) r, s')
    | "taken" => (.record [("taken", .bool (a.isTaken (step.text "name")))], s)
    | "units" => (.record [("units", .list (a.decls.map fun d => .record (declarationFields d)))], s)
    | "exported" => (.record [("exported", strings (a.exported.map Declaration.tableEntry))], s)
    | "names" => (.record [("name", .str a.name), ("error", .str (Assembly.errorSymbol a.name)),
        ("method_table", .str (Assembly.methodTableSymbol a.name)),
        ("module_def", .str (Assembly.moduleDefSymbol a.name)),
        ("init", .str (Assembly.initSymbol a.name))], s)
    | other => (badInput ("unknown step " ++ other), s)

/-- Run an assembler script and answer every step. -/
def answerAssembler (req : Document) : Document :=
  let steps := ((req.given? "steps").bind asList?).getD []
  let run := steps.foldl (fun (acc : List Document × Assembler) s =>
    let (ans, a') := assemblyStep acc.2 s
    (ans :: acc.1, a')) ([], Assembler.new (req.text "name"))
  .record [("steps", .list run.1.reverse)]

end InlineC.Service
