import Offside.Text.Letters

/-!
# Lower case

Full lower case of a text: every character has a lower case of its own, except the capital sigma,
whose lower case depends on whether it ends a word.
-/

namespace Offside

def lowerChar (c : Char) : List Char :=
  if c.toNat < 0x80 then [c.toLower]
  else if c = 'İ' then ['i', '\u0307']
  else
    match caseRuns.find? (·.contains c.toNat) with
    | some run => [Char.ofNat (c.toNat + run.shift).toNat]
    | none => [c]

/-- Whether a letter comes first once marks and signs that carry no case are passed over. -/
def startsInWord (chars : List Char) : Bool :=
  match (chars.dropWhile caseIgnorable.contains).head? with
  | some c => cased.contains c
  | none => false

/-- The lower case of characters; the ones before them are given in reverse. A capital sigma ends
a word when a letter stands before it and none behind it. -/
def lowerChars (before : List Char) : List Char → List Char
  | [] => []
  | c :: rest =>
    let lower :=
      if c = 'Σ' then
        if startsInWord before && !startsInWord rest then ['ς'] else ['σ']
      else lowerChar c
    lower ++ lowerChars (c :: before) rest

def lowercase (text : String) : String :=
  String.ofList (lowerChars [] text.toList)

end Offside
