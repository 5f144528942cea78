/-!
# Failures

How operations fail. Wrong arguments are found by the operations themselves; failures of hooks and
of the store are passed on as they are. `Failure.message` is the wording. An operation may also panic:
this is no failure that it answers with, but it ends the operation as one does.
-/

namespace ProtoStore

/-- What is wrong with the arguments of an operation. -/
inductive ArgumentError
  | nilArgument
  | emptyKey
  | maskCount (masks objects : Nat)
  | missingAssociation (field : String)
deriving Repr, DecidableEq

/-- The wording of an argument error. -/
def ArgumentError.message : ArgumentError → String
  | nilArgument => "nil argument"
  | emptyKey => "primary key is empty"
  | maskCount masks objects =>
    "patch request had " ++ toString masks ++ " update masks, but " ++ toString objects
      ++ " objects"
  | missingAssociation field => "required association `" ++ field ++ "` is missing"

/-- Why a store refuses. -/
inductive StoreError
  | unknownColumn (table column : String)
  | duplicateKey (table : String)
  | missingKey (table : String)
  | other (text : String)
deriving Repr, DecidableEq

/-- The wording of a store error. -/
def StoreError.message : StoreError → String
  | unknownColumn table column => "table `" ++ table ++ "` has no column `" ++ column ++ "`"
  | duplicateKey table => "duplicate key in table `" ++ table ++ "`"
  | missingKey table => "table `" ++ table ++ "` requires an explicit primary key"
  | other text => text

/-- Why a field cannot be converted. -/
inductive ConversionFault
  | negativeNanos
  | timestampOutOfRange
  | malformedUuid
  | malformedJson
  | malformedMessage
  | other (text : String)
deriving Repr, DecidableEq

/-- The wording of a conversion fault. -/
def ConversionFault.message : ConversionFault → String
  | negativeNanos => "negative nanos"
  | timestampOutOfRange => "timestamp out of range"
  | malformedUuid => "malformed UUID"
  | malformedJson => "malformed JSON"
  | malformedMessage => "malformed message"
  | other text => text

/-- Why an operation fails. -/
inductive Failure
  | argument (error : ArgumentError)
  | notFound
  | hook (text : String)
  | store (error : StoreError)
  | conversion (field : String) (fault : ConversionFault)
  | cancelled
  /-- There is no next number, or no order to sort rows in. -/
  | panic
deriving Repr, DecidableEq

namespace Failure

/-- The wording of a failure. -/
def message : Failure → String
  | argument error => error.message
  | notFound => "record not found"
  | hook text => text
  | store error => error.message
  | conversion field fault => "cannot convert field `" ++ field ++ "`: " ++ fault.message
  | cancelled => "operation cancelled"
  | panic => "panic"

/-- Whether a failure says that there is no such row. -/
def isNotFound : Failure → Bool
  | notFound => true
  | _ => false

/-- The argument error that a failure is. -/
def argument? : Failure → Option ArgumentError
  | argument error => some error
  | _ => none

end Failure

end ProtoStore
