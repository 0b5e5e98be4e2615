import Salutation.Text.Quoted

/-!
# Structured rendering

A value is rendered for inspection with the names of its type and fields in view: lists between
brackets, records with `name: value` between braces, and variants with their argument in
parentheses.  The functions here put rendered parts together; the types that are rendered name their
parts themselves.
-/

namespace Salutation.Structured

/-- Rendered items between two delimiters, with a comma and a space between them. -/
def enclosed (opening : Text) (items : List Text) (closing : Text) : Text :=
  opening ++ [',', ' '].intercalate items ++ closing

/-- A list. -/
def list (items : List Text) : Text := enclosed ['['] items [']']

/-- A field of a record. -/
def field (name value : Text) : Text := name ++ [':', ' '] ++ value

/-- A record with named fields, each given by its name and its rendered value. -/
def record (name : Text) (fields : List (Text × Text)) : Text :=
  enclosed (name ++ [' ', '{', ' ']) (fields.map fun f => field f.1 f.2) [' ', '}']

/-- A variant with one argument. -/
def variant (name argument : Text) : Text := enclosed (name ++ ['(']) [argument] [')']

/-- A value that may be missing. -/
def option : Option Text → Text
  | none => "None".toList
  | some t => variant "Some".toList t

/-- A list of single characters. -/
def chars (cs : List Char) : Text := list (cs.map Quoted.char)

/-- A list of texts. -/
def texts (ts : List Text) : Text := list (ts.map Quoted.text)

end Salutation.Structured
