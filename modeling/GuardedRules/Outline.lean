import GuardedRules.Text.Quoted

/-!
# Outlines

The structure of a value laid bare: which constructor built it, from what parts,
under which labels. An outline is written on one line, or with one part a line and
four spaces of indentation for every level.
-/

namespace GuardedRules

/-- What surrounds the parts of a block. -/
structure Outline.Frame where
  opening : String
  closing : String
  /-- Whether spaces keep the parts off the brackets on one line. -/
  spaced : Bool
  /-- Whether the block has parts that it does not show. -/
  elided : Bool

/-- The parts of a value as they are to be shown. -/
inductive Outline where
  | leaf (text : String)
  | labelled (label : String) (body : Outline)
  | block (frame : Outline.Frame) (parts : List Outline)

class Outlined (α : Type) where
  outline : α → Outline

export Outlined (outline)

namespace Outline

/-- A constructor applied to its arguments. -/
def call (name : String) (arguments : List Outline) : Outline :=
  block ⟨name ++ "(", ")", false, false⟩ arguments

/-- A constructor with labelled fields. -/
def fields (name : String) (parts : List (String × Outline)) : Outline :=
  block ⟨name ++ " \x7b", "\x7d", true, false⟩ (parts.map fun part => labelled part.1 part.2)

/-- A constructor with labelled fields, not all of which are shown. -/
def fieldsElided (name : String) (parts : List (String × Outline)) : Outline :=
  block ⟨name ++ " \x7b", "\x7d", true, true⟩ (parts.map fun part => labelled part.1 part.2)

def sequence (items : List Outline) : Outline := block ⟨"[", "]", false, false⟩ items

def mapping (entries : List (String × Outline)) : Outline :=
  block ⟨"\x7b", "\x7d", false, false⟩
    (entries.map fun entry => labelled (Text.quoted entry.1) entry.2)

def text (content : String) : Outline := leaf (Text.quoted content)

/-- What stands for the parts that a frame does not show. -/
def Frame.ellipsis (frame : Frame) : List String := if frame.elided then [".."] else []

mutual

/-- The outline on one line. -/
def compact : Outline → String
  | leaf content => content
  | labelled label body => label ++ ": " ++ compact body
  | block frame parts =>
    let margin := if frame.spaced then " " else ""
    frame.opening ++ margin ++ ", ".intercalate (compactAll parts ++ frame.ellipsis) ++ margin ++
      frame.closing

def compactAll : List Outline → List String
  | [] => []
  | part :: rest => compact part :: compactAll rest

end

def indentation : String := "    "

mutual

/-- The outline over several lines, the first of which is already indented by `margin`. -/
def spread (margin : String) : Outline → String
  | leaf content => content
  | labelled label body => label ++ ": " ++ spread margin body
  | block frame parts =>
    if parts.isEmpty && !frame.elided then frame.opening ++ frame.closing
    else
      let inner := margin ++ indentation
      frame.opening ++ "\n" ++ spreadAll inner parts ++
        String.join (frame.ellipsis.map fun mark => inner ++ mark ++ "\n") ++
        margin ++ frame.closing

/-- The parts of a block, each on lines of its own and followed by a comma. -/
def spreadAll (margin : String) : List Outline → String
  | [] => ""
  | part :: rest => margin ++ spread margin part ++ ",\n" ++ spreadAll margin rest

end

/-- The outline over several lines. -/
def pretty (o : Outline) : String := spread "" o

end Outline

end GuardedRules
