import MarineFix.Text.Quoted
/-!
Each reason why a sentence cannot be decoded has one message.
-/

namespace MarineFix

/-- A coordinate is measured along one of two axes. -/
inductive Axis where
  | latitude
  | longitude
deriving DecidableEq

def Axis.name : Axis → Text
  | .latitude => "latitude".toList
  | .longitude => "longitude".toList

/-- What a field was expected to hold. -/
inductive Expectation where
  | numeral
  | coordinate (axis : Axis)
  | letter (description : Text)
deriving DecidableEq

/-- A field holds a text that is not expected there. -/
structure FieldFailure where
  kind : Text
  index : Nat
  value : Text
  expected : Expectation
deriving DecidableEq

/-- A sentence fails at a field or before its fields are known. -/
inductive Failure where
  | field (failure : FieldFailure)
  | noLeader (sentence : Text)
  | shortType (messageType : Text)
  | checksumMismatch (sentence : Text)
  | checksumMissing (sentence : Text)
  | unsupported (kind : Text)
deriving DecidableEq

/-- Failures are sorted into five categories. -/
inductive Failure.Category where
  | malformedField
  | invalidEnumeration
  | malformedSentence
  | checksum
  | unsupportedSentence
deriving DecidableEq

def Failure.Category.name : Failure.Category → Text
  | .malformedField => "malformed_field".toList
  | .invalidEnumeration => "invalid_enumeration".toList
  | .malformedSentence => "malformed_sentence".toList
  | .checksum => "checksum".toList
  | .unsupportedSentence => "unsupported_sentence".toList

def FieldFailure.category (failure : FieldFailure) : Failure.Category :=
  match failure.expected with
  | .letter _ => .invalidEnumeration
  | _ => .malformedField

/-- The message names the kind of the sentence and quotes the rejected text. -/
def FieldFailure.message (failure : FieldFailure) : Text :=
  match failure.expected with
  | .numeral =>
      "Failed to parse ".toList ++ failure.kind ++ " field ".toList ++ Text.ofNat failure.index ++
        ": ".toList ++ Text.quoted failure.value
  | .coordinate axis =>
      "Failed to parse ".toList ++ failure.kind ++ " ".toList ++ axis.name ++ " field ".toList ++
        Text.ofNat failure.index ++ ": ".toList ++ Text.quoted failure.value
  | .letter description =>
      "Invalid ".toList ++ failure.kind ++ " ".toList ++ description ++ ": ".toList ++
        Text.quoted failure.value

namespace Failure

def category : Failure → Category
  | .field failure => failure.category
  | .noLeader _ => .malformedSentence
  | .shortType _ => .malformedSentence
  | .checksumMismatch _ => .checksum
  | .checksumMissing _ => .checksum
  | .unsupported _ => .unsupportedSentence

/-- The kind is known behind the frame and the message type. -/
def sentenceKind? : Failure → Option Text
  | .field failure => some failure.kind
  | .unsupported kind => some kind
  | _ => none

def field? : Failure → Option FieldFailure
  | .field failure => some failure
  | _ => none

/-- A line without a leader is quoted by its first characters. -/
def message : Failure → Text
  | .field failure => failure.message
  | .noLeader sentence =>
      "Sentence does not start with '$': ".toList ++ Text.quoted (sentence.take 16)
  | .shortType messageType => "Message type too short: ".toList ++ Text.quoted messageType
  | .checksumMismatch sentence => "Checksum mismatch: ".toList ++ Text.quoted sentence
  | .checksumMissing sentence => "Checksum missing: ".toList ++ Text.quoted sentence
  | .unsupported kind => "Unsupported sentence type: ".toList ++ kind

end Failure

end MarineFix
