import PatchCompiler.Value.Display

/-!
# Faults

Why a step could not be completed. `rejected` is a refusal of the compiler itself, with its reason;
the other constructors name what was wrong with the data it was given.
-/

namespace PatchCompiler

/-- What is wrong with a decimal number. -/
inductive DecimalFault where
  | malformed
  /-- It has digits at places that do not exist. -/
  | outOfRange
  deriving DecidableEq, Repr

inductive Fault where
  | rejected (reason : String)
  | failed (reason : String)
  | assertion (reason : String)
  | missingField (name : String)
  /-- A record has no field under a number. -/
  | missingPlace (index : Int)
  | outOfRange
  | outOfText
  | assignedOutOfRange
  | badValue (reason : String)
  | badType (reason : String)
  /-- An object does not have what is asked of it. -/
  | noMember (reason : String)
  | overflow (reason : String)
  | badDecimal (cause : DecimalFault)
  /-- Four characters of a hashed text are not four bytes. -/
  | badEncoding
  /-- Arguments were taken away while they were gone through. -/
  | changedWhileReading
  /-- A patch file has no complete record. -/
  | endOfText
  | fileMissing (path : String)
  | fileExists (path : String)
  | badJson (reason : String)
  | unsetName
  | divisionByZero
  | unknownName (reason : String)
  | notImplemented (reason : String)
  /-- A raw annotation is incomplete or not numeric. -/
  | rawRefused (reason : String)
  | tooDeep
  /-- A template asks for something that is not defined. -/
  | undefinedValue (reason : String)
  deriving DecidableEq, Repr

namespace Fault

def message : Fault → String
  | .rejected reason => reason
  | .failed reason => reason
  | .assertion reason => reason
  | .missingField name => Text.quoted name
  | .missingPlace index => toString index
  | .outOfRange => "list index out of range"
  | .outOfText => "string index out of range"
  | .assignedOutOfRange => "list assignment index out of range"
  | .badValue reason => reason
  | .badType reason => reason
  | .noMember reason => reason
  | .overflow reason => reason
  | .badDecimal .malformed => "[<class 'decimal.ConversionSyntax'>]"
  | .badDecimal .outOfRange => "[<class 'decimal.InvalidOperation'>]"
  | .badEncoding => ""
  | .changedWhileReading => "dictionary changed size during iteration"
  | .endOfText => ""
  | .fileMissing path => "[Errno 2] No such file or directory: '" ++ path ++ "'"
  | .fileExists path => "[Errno 17] File exists: '" ++ path ++ "'"
  | .badJson reason => reason
  | .unsetName => ""
  | .divisionByZero => "division by zero"
  | .unknownName reason => reason
  | .notImplemented reason => reason
  | .rawRefused reason => reason
  | .tooDeep => "maximum recursion depth exceeded"
  | .undefinedValue reason => reason

end Fault

end PatchCompiler
