import WarehouseAdmin.Catalog.Alert
import WarehouseAdmin.Catalog.Function
import WarehouseAdmin.Catalog.Schema
import WarehouseAdmin.Catalog.Warehouse
import WarehouseAdmin.Proofs.Row.Columns
import WarehouseAdmin.Row.Sample

/-!
# The columns of each kind of row

Every kind of row has its own columns, `RowKind.columns`, in the order in which its fields are
declared; its reader reads these and nothing else (`RowKind.readsColumns`). Hence what comes of a row
depends on what it holds for them and not on how the server puts its columns in order, spells their
names, repeats them, or adds others (`scan_exact`).
-/

set_option autoImplicit false

namespace WarehouseAdmin

open Time Sample

/-- The kinds of rows: those of the catalog, and those of the made-up objects. -/
inductive RowKind where
  | warehouse
  | database
  | schema
  | alert
  | function
  | detail
  | property
  | thing
  | item
deriving DecidableEq, Repr

namespace RowKind

/-- What a row of the kind is read into. -/
abbrev Fields : RowKind → Type
  | warehouse => WarehouseRow
  | database => DatabaseRow
  | schema => SchemaRow
  | alert => AlertRow
  | function => FunctionRow
  | detail => ObjectDetailRow
  | property => Property
  | thing => ThingRow
  | item => ItemRow

def scan : (k : RowKind) → Row → Except ScanError k.Fields
  | warehouse, r => OfRow.ofRow r
  | database, r => OfRow.ofRow r
  | schema, r => OfRow.ofRow r
  | alert, r => OfRow.ofRow r
  | function, r => OfRow.ofRow r
  | detail, r => OfRow.ofRow r
  | property, r => OfRow.ofRow r
  | thing, r => OfRow.ofRow r
  | item, r => OfRow.ofRow r

open Column

/-- The columns of a kind, in the order in which they are declared. -/
def columns : RowKind → List Column
  | warehouse =>
    [required String "name", optional String "state", optional String "type",
      optional String "size", optional Int "min_cluster_count", optional Int "max_cluster_count",
      optional Int "started_clusters", optional Int "running", optional Int "queued",
      optional Bool "is_default", optional Bool "is_current", optional Int "auto_suspend",
      optional Bool "auto_resume", optional Instant "created_on", optional Instant "resumed_on",
      optional Instant "updated_on", optional String "owner", optional String "comment",
      optional Bool "enable_query_acceleration",
      optional Int "query_acceleration_max_scale_factor", optional String "resource_monitor",
      optional String "scaling_policy", optional String "owner_role_type"]
  | database =>
    [optional Instant "created_on", required String "name", optional String "kind",
      optional Bool "is_default", optional Bool "is_current", optional String "origin",
      optional String "owner", optional String "comment", optional String "options",
      optional String "retention_time", optional Instant "dropped_on",
      optional String "owner_role_type"]
  | schema =>
    [optional Instant "created_on", required String "name", optional String "kind",
      required String "database_name", optional Bool "is_default", optional Bool "is_current",
      optional String "owner", optional String "comment", optional String "options",
      optional String "retention_time", optional Instant "dropped_on",
      optional String "owner_role_type"]
  | alert =>
    [optional Instant "created_on", required String "name", required String "database_name",
      required String "schema_name", optional String "owner", optional String "comment",
      optional String "warehouse", optional String "schedule", optional String "state",
      optional String "condition", optional String "action"]
  | function =>
    [optional Instant "created_on", required String "name", required String "schema_name",
      required String "catalog_name", optional Bool "is_builtin", optional Bool "is_aggregate",
      optional Bool "is_ansi", optional Int "min_num_arguments", optional Int "max_num_arguments",
      required String "arguments", optional String "description",
      optional Bool "is_table_function", optional Bool "valid_for_clustering",
      optional Bool "is_secure", optional Bool "is_external_function", optional String "language"]
  | detail => [optional Instant "created_on", required String "name", optional String "kind"]
  | property => [required String "property", optional String "value"]
  | thing =>
    [required String "name", optional Int "auto_suspend", required Bool "is_default",
      optional String "comment"]
  | item =>
    [required String "name", required Int "qty", optional Float "price", optional String "note"]

/-- **Each kind reads its columns**, in their order and nothing else. -/
theorem readsColumns (k : RowKind) : ReadsColumns k.columns k.scan := by
  cases k
  all_goals
    repeat' refine ReadsColumns.column _ fun _ => ?_
    exact ReadsColumns.done _

/-- **What comes of a row depends on what it holds for the columns of its kind.** Rows that hold the
same cells for them, in whatever order, are read alike: they give the same fields, or the same error,
which is that of the first column, as they are declared, that cannot be decoded. -/
theorem scan_exact (k : RowKind) :
    (∀ r r' : Row, (r.seen k.columns).Perm (r'.seen k.columns) → k.scan r = k.scan r') ∧
    ∀ (r : Row) (e : ScanError), k.scan r = .error e ↔ FirstFault r k.columns e := by
  refine ⟨fun r r' h => ?_, fun r e => k.readsColumns.error_iff⟩
  exact k.readsColumns.congr fun c hc => Row.get?_eq_of_perm h hc

/-- A row in which a number and a flag cannot be decoded. -/
def faultyRow : Row :=
  ⟨[("name", .text "T"), ("auto_suspend", .text "soon"), ("is_default", .text "maybe"),
    ("comment", .null)]⟩

/-- The same in another order and with other letters, with a column of no meaning, and with a number
that comes too late. -/
def shuffledRow : Row :=
  ⟨[("IS_DEFAULT", .text "maybe"), ("Comment", .null), ("size", .int 3), ("Name", .text "T"),
    ("AUTO_SUSPEND", .text "soon"), ("auto_suspend", .int 60)]⟩

/-- Of both rows the number is reported, which is declared before the flag. -/
theorem scan_exact_shuffledRow :
    (faultyRow.seen thing.columns).Perm (shuffledRow.seen thing.columns) ∧
    thing.scan faultyRow = thing.scan shuffledRow ∧
    thing.scan shuffledRow = .error (.typeMismatch "auto_suspend" "INTEGER" "TEXT") := by
  obtain ⟨hcongr, herror⟩ := scan_exact thing
  have hperm : (faultyRow.seen thing.columns).Perm (shuffledRow.seen thing.columns) := by
    decide
  have hname : (required String "name").decode shuffledRow = .ok "T" := rfl
  have hnumber : (optional Int "auto_suspend").decode shuffledRow =
      .error (.typeMismatch "auto_suspend" "INTEGER" "TEXT") := rfl
  exact ⟨hperm, hcongr _ _ hperm, (herror _ _).mpr (.later hname (.here hnumber))⟩

end RowKind

end WarehouseAdmin
