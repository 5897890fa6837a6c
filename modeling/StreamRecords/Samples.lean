import StreamRecords.Repository.Entity
import StreamRecords.Time.Rfc3339

/-!
A few types of entities to try repositories with.
-/

namespace StreamRecords.Samples

open Json Time

/-! ### Notes -/

structure Note where
  id : String
  body : String
  deriving DecidableEq, Repr

def Note.format : Format Note :=
  (Format.record "Note" <|
    .cons (.required "id") .text <| .cons (.required "body") .text .nil).iso
    (fun (id, body, ()) => ⟨id, body⟩) fun n => (n.id, n.body, ())

def Note.entity : Entity Note := ⟨Note.format, fun n => some n.id, "Note", none⟩

/-! ### Orders -/

structure Order where
  id : String
  quantity : UInt32
  note : Option String
  tags : List String
  deriving DecidableEq, Repr

def Order.format : Format Order :=
  (Format.record "Order" <|
    .cons (.required "id") .text <|
    .cons (.required "qty") .word32 <|
    .cons (.optional "note") (.option .text) <|
    .cons (.required "tags") (.list .text) .nil).iso
    (fun (id, quantity, note, tags, ()) => ⟨id, quantity, note, tags⟩)
    fun o => (o.id, o.quantity, o.note, o.tags, ())

def Order.entity : Entity Order := ⟨Order.format, fun o => some o.id, "Order", none⟩

/-! ### Contracts -/

structure Contract where
  id : String
  buyer : String
  seller : String
  start : Instant
  finish : Instant
  priceCents : UInt64
  deriving DecidableEq

/-- An instant as a date and a time, in any zone when read and in UTC when written. -/
def dateFormat : Format Instant :=
  (Format.string "an RFC 3339 formatted date and time string").via
    (fun s => (Rfc3339.parse s).mapError Rfc3339.Fault.message) fun t => .ok (Rfc3339.withLetter t)

def Contract.format : Format Contract :=
  (Format.record "Contract" <|
    .cons (.required "id") .text <|
    .cons (.required "buyer") .text <|
    .cons (.required "seller") .text <|
    .cons (.required "start_date") dateFormat <|
    .cons (.required "end_date") dateFormat <|
    .cons (.required "price_cents") .word64 .nil).iso
    (fun (id, buyer, seller, start, finish, priceCents, ()) =>
      ⟨id, buyer, seller, start, finish, priceCents⟩)
    fun c => (c.id, c.buyer, c.seller, c.start, c.finish, c.priceCents, ())

def Contract.entity : Entity Contract := ⟨Contract.format, fun c => some c.id, "Contract", none⟩

/-! ### Invoices, which may have no key and have a stream that is not named like them -/

structure Invoice where
  number : Option String
  deriving DecidableEq, Repr

def Invoice.format : Format Invoice :=
  (Format.record "Invoice" <| .cons (.optional "number") (.option .text) .nil).iso
    (fun (number, ()) => ⟨number⟩) fun i => (i.number, ())

/-- Invoices are found by their numbers, in a stream whose name is given with blanks. -/
def Invoice.entity : Entity Invoice :=
  ⟨Invoice.format, Invoice.number, "Invoice", some "  invoices-2024\n"⟩

/-! ### Wrappers, whose keys lie deeper -/

structure Wrapper where
  inner : Note
  deriving DecidableEq, Repr

def Wrapper.format : Format Wrapper :=
  (Format.record "Wrapper" <| .cons (.required "inner") Note.format .nil).iso
    (fun (inner, ()) => ⟨inner⟩) fun w => (w.inner, ())

def Wrapper.entity : Entity Wrapper :=
  ⟨Wrapper.format, fun w => some w.inner.id, "Wrapper<Note>", none⟩

/-! ### Records of which some cannot be written -/

/-- A record that cannot be written if its identifier starts with `bad`. -/
structure Fragile where
  id : String
  deriving DecidableEq, Repr

def Fragile.written (f : Fragile) : Except String String :=
  if "bad".toList.isPrefixOf f.id.toList then .error s!"refusing {f.id}" else .ok f.id

def Fragile.format : Format Fragile :=
  (Format.record "Fragile" <| .cons (.required "id") .text .nil).via
    (fun (id, ()) => .ok ⟨id⟩) fun f => f.written.map fun id => (id, ())

def Fragile.entity : Entity Fragile := ⟨Fragile.format, fun f => some f.id, "Fragile", none⟩

/-! ### Records for which there is no stream -/

/-- A record of a type that asks for a stream without a name. -/
structure Blank where
  id : String
  deriving DecidableEq, Repr

def Blank.format : Format Blank :=
  (Format.record "Blank" <| .cons (.required "id") .text .nil).iso
    (fun (id, ()) => ⟨id⟩) fun b => (b.id, ())

def Blank.entity : Entity Blank := ⟨Blank.format, fun b => some b.id, "Blank", some " \t "⟩

end StreamRecords.Samples
