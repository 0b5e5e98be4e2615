import Salutation.Log.Directive
import Salutation.Log.Event

/-!
# Log filters

A filter is a list of directives, separated by commas.  What it comes down to for messages that
stand in no span is a set of **rules**, each a target, the fields a message must have, and a level.
Rules are kept in order of precedence: those with a target before those without, longer targets
before shorter ones, and then those that ask for more fields.  A later rule for the same target and
fields takes the place of an earlier one.  The first rule that fits a message decides whether it is
logged.

So of two directives that fit, the one with the longer target decides, wherever it stands in the
list.
-/

namespace Salutation.Log

/-- A rule of a filter. -/
structure Rule where
  target : Option Text
  fields : List Text
  level : Level
  deriving Repr, DecidableEq

namespace Rule

/-- The rule that a directive gives, if it needs neither a span nor the value of a field. -/
def ofDirective? (d : Directive) : Option Rule :=
  if d.span.isNone && d.fields.all (·.value.isNone) then
    some ⟨d.target, d.fields.map (·.name), d.level⟩
  else none

/-- Compares two rules by how specific they are; of two as specific as each other, by their targets
and fields themselves. -/
def specificity (a b : Rule) : Ordering :=
  (compare (a.target.map Utf8.size) (b.target.map Utf8.size)).then <|
    (compare a.fields.length b.fields.length).then <|
      (compare a.target b.target).then (compare a.fields b.fields)

/-- Whether a rule fits a message: the target of the message begins with that of the rule, and it
has all the fields. -/
def fits (r : Rule) (e : Event) : Bool :=
  (match r.target with
    | none => true
    | some t => t.isPrefixOf e.target)
  && r.fields.all e.fields.contains

/-- Puts a rule in its place among rules that are in order of precedence. -/
def insert (r : Rule) : List Rule → List Rule
  | [] => [r]
  | q :: qs =>
    match r.specificity q with
    | .gt => r :: q :: qs
    | .eq => r :: qs
    | .lt => q :: insert r qs

end Rule

/-- A filter: its rules, in order of precedence. -/
structure Filter where
  rules : List Rule
  deriving Repr, DecidableEq

namespace Filter

/-- **Whether a message is logged.** -/
def enables (f : Filter) (e : Event) : Bool :=
  match f.rules.find? (·.fits e) with
  | none => false
  | some r => r.level.admits e.level

/-- The filter that sets one level for all messages. -/
def ofLevel (l : Level) : Filter := ⟨[⟨none, [], l⟩]⟩

/-- The filter of a list of directives.  Those that depend on spans or fields come after the others.
Without directives only errors are logged. -/
def ofDirectives (ds : List Directive) : Filter :=
  if ds = [] then ofLevel .error
  else
    let plain := ds.filter (!·.isDynamic)
    let dynamic := ds.filter (·.isDynamic)
    ⟨((plain ++ dynamic).filterMap Rule.ofDirective?).foldl (fun rs r => Rule.insert r rs) []⟩

/-- **Reads a filter.**  Nothing between two commas is no directive. -/
def parse (t : Text) : Except FilterFault Filter :=
  (((t.splitOn ',').filter (· ≠ [])).mapM Directive.parse).map ofDirectives

/-- The filter where none is given, or none that can be read. -/
def fallback : Filter := ofLevel .warn

/-- **The filter that a variable of the environment gives.**  A value that is no text or does not
read as a filter counts as none. -/
def ofVariable : Option Bytes → Except FilterFault Filter
  | none => .ok fallback
  | some value =>
    match Utf8.decode? value with
    | none => .ok fallback
    | some t =>
      match parse t with
      | .ok f => .ok f
      | .error .malformed => .ok fallback
      | .error .misaligned => .error .misaligned

end Filter

end Salutation.Log
