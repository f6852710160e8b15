/-
This file keeps named entries in the order of their names, each name once. The order
is the one of the code points. Entering a name again replaces what it named before,
so that `Entries.ofList` lets the last of several entries win.
-/

namespace PredicateWire.Entries

/-- Enters a name into entries that are in order. -/
def insert {Content : Type} (name : String) (content : Content) :
    List (String × Content) → List (String × Content)
  | [] => [(name, content)]
  | (first, firstContent) :: rest =>
    if name = first then (name, content) :: rest
    else if name < first then (name, content) :: (first, firstContent) :: rest
    else (first, firstContent) :: insert name content rest

/-- The entries of a list in order. -/
def ofList {Content : Type} (entries : List (String × Content)) : List (String × Content) :=
  entries.foldl (fun sorted entry => insert entry.1 entry.2 sorted) []

/-- What a name names. -/
def get? {Content : Type} (entries : List (String × Content)) (name : String) : Option Content :=
  (entries.find? fun entry => entry.1 == name).map Prod.snd

end PredicateWire.Entries
