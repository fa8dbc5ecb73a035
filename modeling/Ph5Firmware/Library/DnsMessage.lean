import Mathlib.Data.List.Flatten
import Ph5Firmware.Library.NetworkBytes

/-!
# Messages of the domain name system

A message has a header of twelve bytes, which ends with the numbers of its questions,
answers, authorities and additional records, and then these.  A name is written as its
labels, each behind its length, up to a length of zero; the name of a record may also be
a pointer to where a name stands in the message.
-/

namespace Dns

/-- A number in two bytes. -/
def word (number : ℕ) : List UInt8 :=
  (ByteMemory.store 2 number).reverse

/-- The labels of a name, each behind its length. -/
def chain (labels : List (List UInt8)) : List UInt8 :=
  labels.flatMap fun label => UInt8.ofNat label.length :: label

structure DomainName where
  labels : List (List UInt8)
  sized : ∀ label ∈ labels, label ≠ [] ∧ label.length ≤ 63

structure Header where
  id : UInt16
  response : Bool
  opcode : Fin 16
  authoritative : Bool
  truncated : Bool
  recursionDesired : Bool
  recursionAvailable : Bool
  reserved : Fin 8
  code : Fin 16

structure Question where
  name : DomainName
  kind : UInt16
  cls : UInt16

inductive RecordName where
  | written (name : DomainName)
  | pointer (offset : Fin 16384)

structure Record where
  name : RecordName
  kind : UInt16
  cls : UInt16
  ttl : UInt32
  data : List UInt8
  short : data.length < 65536

structure Message where
  header : Header
  questions : List Question
  answers : List Record
  authorities : List Record
  additionals : List Record
  few : questions.length < 65536 ∧ answers.length < 65536 ∧ authorities.length < 65536 ∧
    additionals.length < 65536

/-! ## The bytes -/

namespace DomainName

def encode (name : DomainName) : List UInt8 :=
  chain name.labels ++ [0]

/-- The name as it is written out, with dots. -/
def text (name : DomainName) : List UInt8 :=
  [46].intercalate name.labels

end DomainName

namespace Header

def firstFlags (response : Bool) (opcode : Fin 16)
    (authoritative truncated recursionDesired : Bool) : UInt8 :=
  UInt8.ofNat (128 * response.toNat + 8 * opcode.val + 4 * authoritative.toNat +
    2 * truncated.toNat + recursionDesired.toNat)

def secondFlags (recursionAvailable : Bool) (reserved : Fin 8) (code : Fin 16) : UInt8 :=
  UInt8.ofNat (128 * recursionAvailable.toNat + 16 * reserved.val + code.val)

/-- The twelve bytes, with the numbers of what follows. -/
def encode (header : Header) (questions answers authorities additionals : ℕ) : List UInt8 :=
  word header.id.toNat ++
    [firstFlags header.response header.opcode header.authoritative header.truncated
      header.recursionDesired,
      secondFlags header.recursionAvailable header.reserved header.code] ++
    word questions ++ word answers ++ word authorities ++ word additionals

end Header

def Question.encode (question : Question) : List UInt8 :=
  question.name.encode ++ word question.kind.toNat ++ word question.cls.toNat

def RecordName.encode : RecordName → List UInt8
  | .written name => name.encode
  | .pointer offset => word (49152 + offset.val)

def Record.encode (record : Record) : List UInt8 :=
  record.name.encode ++ word record.kind.toNat ++ word record.cls.toNat ++
    (ByteMemory.store 4 record.ttl.toNat).reverse ++ word record.data.length ++ record.data

namespace Message

/-- What follows the header. -/
def body (message : Message) : List UInt8 :=
  message.questions.flatMap Question.encode ++ message.answers.flatMap Record.encode ++
    message.authorities.flatMap Record.encode ++ message.additionals.flatMap Record.encode

def encode (message : Message) : List UInt8 :=
  message.header.encode message.questions.length message.answers.length
    message.authorities.length message.additionals.length ++ message.body

end Message

/-! ## Reading it back -/

@[simp] theorem length_word (number : ℕ) : (word number).length = 2 := rfl

theorem chain_cons (label : List UInt8) (rest : List (List UInt8)) :
    chain (label :: rest) = UInt8.ofNat label.length :: (label ++ chain rest) := rfl

theorem intercalate_cons (dot : UInt8) (label : List UInt8) (rest : List (List UInt8)) :
    [dot].intercalate (label :: rest) = label ++ rest.flatMap fun label => dot :: label := by
  induction rest generalizing label with
  | nil => simp [List.intercalate]
  | cons next rest ih =>
      rw [List.flatMap_cons, List.cons_append, ← ih]
      simp [List.intercalate]

end Dns
