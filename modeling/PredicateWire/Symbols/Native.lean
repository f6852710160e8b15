/-
This file lists the bodies that methods, constructors and properties can have. The
built-in library has a body for each of its operations, a record type has bodies
that assemble its values, and a catalog may bring methods of its own whose bodies
are small scripts. A script never holds a function: what it answers is plain data.
-/

namespace PredicateWire

/-- Plain data: a value without functions. -/
inductive Datum
  | null
  | bool (value : Bool)
  | int32 (value : Int32)
  | int64 (value : Int64)
  | double (value : Float)
  | char (value : Char)
  | string (value : String)
  | array (items : List Datum)
  | map (entries : List (Datum × Datum))
  | record (fields : List (String × Datum))

/-- A body written by the owner of a catalog: it answers with fixed data or with one of its
arguments, fails with a text, reads a field of its target, applies one argument to those after
the first, or gathers its target and its arguments in an array. -/
inductive Script
  | answer (datum : Datum)
  | argument (position : Nat)
  | fail (text : String)
  | field (name : String)
  | apply (position : Nat)
  | gather

/-- The tests of one text against another. -/
inductive TextTest
  | startsWith
  | endsWith
  | contains
deriving DecidableEq

/-- The two cases of letters. -/
inductive LetterCase
  | upper
  | lower
deriving DecidableEq

/-- The two ends of a sequence. -/
inductive SequenceEnd
  | first
  | last
deriving DecidableEq

/-- The body of a method, a constructor or a property. -/
inductive Native
  | sequenceContains
  | sequenceAny
  | sequenceAnyWhere
  | sequenceEnd (which : SequenceEnd)
  | sequenceCount
  | textTest (test : TextTest)
  | textCase (case : LetterCase)
  | textLength
  | listContains
  | listItem
  | listCount
  | dictionaryItem
  | dictionaryContainsKey
  | dictionaryCount
  | assemble (typeName : String) (fields names : List String)
  | script (script : Script)

namespace TextTest

/-- The name of the method. -/
def name : TextTest → String
  | startsWith => "StartsWith"
  | endsWith => "EndsWith"
  | contains => "Contains"

end TextTest

namespace LetterCase

/-- The name of the method. -/
def name : LetterCase → String
  | upper => "ToUpper"
  | lower => "ToLower"

end LetterCase

namespace SequenceEnd

/-- The name of the method. -/
def name : SequenceEnd → String
  | first => "First"
  | last => "Last"

end SequenceEnd

end PredicateWire
