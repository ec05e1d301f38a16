import MessageBus.Message.Report
/-!
# Message types for rehearsals

A shop's message types, one for each form that a shape can take.
-/

namespace MessageBus.Rehearsal

open Json

/-- The message types by their short names. -/
def catalogue : List (String × MessageKind) :=
  [ ("OrderPlaced", ⟨"orders.OrderPlaced", .record "struct OrderPlaced" [("id", .word 32)]⟩),
    ("OrderCancelled", ⟨"orders.OrderCancelled", .record "struct OrderCancelled" [("id", .word 32)]⟩),
    ("InvoiceIssued", ⟨"billing.InvoiceIssued", .record "struct InvoiceIssued" [("number", .text)]⟩),
    ("PriceChanged",
      ⟨"catalog.PriceChanged", .record "struct PriceChanged" [("sku", .text), ("cents", .word 64)]⟩),
    ("Profile",
      ⟨"users.Profile", .record "struct Profile"
        [("name", .text), ("nick", .optional .text), ("age", .integer 8), ("tags", .list .text),
          ("attrs", .dictionary (.integer 64)), ("active", .flag)]⟩),
    ("Shape",
      ⟨"geo.Shape", .choice "enum Shape"
        [("Circle", .record "struct variant Shape::Circle" [("r", .word 32)]), ("Square", .word 32),
          ("Pair", .tuple "tuple variant Shape::Pair" [.integer 32, .integer 32]), ("Unit", .unit)]⟩),
    ("Unencodable", ⟨"shop.Unencodable", .record "struct Unencodable" [("weights", .keyless (.word 32))]⟩),
    ("Blank", ⟨"", .record "struct Blank" []⟩),
    ("Accent", ⟨"événement.日本 \"q\"", .text⟩),
    ("TransportError", Report.kind) ]

/-- The message type with a short name. -/
def kind? (name : String) : Option MessageKind :=
  (catalogue.find? fun e => e.1 = name).map (·.2)

end MessageBus.Rehearsal
