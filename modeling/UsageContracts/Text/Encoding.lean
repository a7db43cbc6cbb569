import UsageContracts.Text.Quoted

/-!
# Encoding of texts

A text is written to a file in UTF-8, in which the halves of surrogate pairs have no
place.  Only names of files can hold some of them: those that stand for bytes of a name
that is not UTF-8.
-/

namespace UsageContracts

/-- Why a text is not encoded: from an index on, halves of surrogate pairs stand in
it. -/
structure EncodingFault where
  start : Nat
  halves : Text
deriving DecidableEq

namespace EncodingFault

/-- The wording of a fault. -/
def message (fault : EncodingFault) : Text :=
  let place : Text :=
    match fault.halves with
    | [half] =>
        "character '" ++ Text.numberEscape half ++ "' in position " ++ Text.decimal fault.start
    | halves =>
        "characters in position " ++ Text.decimal fault.start ++ "-" ++
          Text.decimal (fault.start + halves.length - 1)
  "'utf-8' codec can't encode " ++ place ++ ": surrogates not allowed"

end EncodingFault

namespace CodePoint

/-- Whether a code point is half of a surrogate pair. -/
def isHalf : CodePoint → Bool
  | .scalar _ => false
  | .surrogate _ => true

/-- Whether a code point stands for a byte in a name of a file. -/
def isNameByte (point : CodePoint) : Bool :=
  0xDC80 ≤ point.number && point.number ≤ 0xDCFF

end CodePoint

namespace Text

/-- The first halves in a text for which there is no place, if there is one for some of
them. -/
def firstHalves? (hasPlace : CodePoint → Bool) (text : Text) : Option EncodingFault :=
  let isWritten := fun point : CodePoint => !point.isHalf || hasPlace point
  match text.dropWhile isWritten with
  | [] => none
  | rest =>
      some { start := (text.takeWhile isWritten).length, halves := rest.takeWhile (·.isHalf) }

/-- Why the content of a file is not encoded. -/
def contentFault? (text : Text) : Option EncodingFault :=
  text.firstHalves? fun _ => false

/-- Why the name of a file is not encoded. -/
def nameFault? (text : Text) : Option EncodingFault :=
  text.firstHalves? (·.isNameByte)

end Text

end UsageContracts
