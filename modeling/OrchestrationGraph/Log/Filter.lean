import OrchestrationGraph.Log.Directive
import OrchestrationGraph.Log.Record

/-!
# Choosing log records

A filter is a list of directives. Of the plain ones the most specific decides on a record, and of
equal ones the last. A scoped one may let a record pass besides, if the record is made within a span
that the directive is for.
-/

namespace OrchestrationGraph.Log

/-- A stretch of a run that has a name and fields of its own. -/
structure Span where
  name : String
  target : String
  fields : List (String × String)

namespace Directive

def watches (d : Directive) (s : Span) : Bool :=
  d.isScoped && d.concerns s.target && d.span.all (· = s.name) &&
    d.fields.all fun t => s.fields.any fun f => f.1 = t.name

def accepts (d : Directive) (s : Span) : Bool :=
  d.fields.all fun t => s.fields.any fun f => f.1 = t.name && t.accepts f.2

end Directive

abbrev Filter := List Directive

namespace Filter

/-- Warnings of everything, and records of the program from the given level on. -/
def ofLevel (level : Level) : Filter :=
  [{ level := some .warn }, { target := some "funcgraph", level := some level }]

def texts (s : String) : List String :=
  ((Text.piecesBy (· = ',') s.toList).filter (!·.isEmpty)).map String.ofList

/-- Directives that cannot be read do not count. If none is left, only errors pass. -/
def ofText (s : String) : Filter :=
  match (texts s).filterMap fun t => (Directive.ofText t).toOption with
  | [] => [{ level := some .error }]
  | directives => directives

def complaints (s : String) : List String :=
  (texts s).filterMap fun t =>
    match Directive.ofText t with
    | .ok _ => none
    | .error defect => some ("ignoring \x60" ++ t ++ "\x60: " ++ defect.message)

/-- The plain directive that counts, of those that pass the test. -/
def deciding? (f : Filter) (test : Directive → Bool) : Option Directive :=
  (f.filter fun d => d.isPlain && test d).foldl (fun best d =>
    match best with
    | some b => if d.isAsSpecificAs b then some d else some b
    | none => some d) none

/-- Whether the record passes for what it is. -/
def passesPlainly (f : Filter) (r : Record) : Bool :=
  let d? := f.deciding? fun d =>
    d.concerns r.target && d.fields.all fun t => r.fieldNames.contains t.name
  d?.any (·.covers r.level)

/-- Spans have the level of information. They exist if some directive goes that far, or depends on
values, which are not known before there is a span. -/
def hasSpans (f : Filter) : Bool :=
  f.any fun d => d.covers .info || d.fields.any fun t => t.value.isSome

/-- Scoped directives for the same records: the last one stays. -/
def latestScoped : Filter → Filter
  | [] => []
  | d :: rest => (if d.isScoped && !rest.any d.sameScope then [d] else []) ++ latestScoped rest

def passesWithin (f : Filter) (s : Span) (l : Level) : Bool :=
  f.hasSpans && f.latestScoped.any fun d => d.watches s && d.accepts s && d.covers l

def passes (f : Filter) (span? : Option Span) (r : Record) : Bool :=
  f.passesPlainly r || span?.any fun s => f.passesWithin s r.level

/-- Whether records made within the span name it: one of the directives must be for it. -/
def names (f : Filter) (s : Span) : Bool :=
  f.hasSpans && (f.any (·.watches s) ||
    (f.deciding? fun d => d.concerns s.target).any (·.covers .info))

end Filter

end OrchestrationGraph.Log
