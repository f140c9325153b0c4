import ArchiveCatalog.Error

namespace ArchiveCatalog

/-- The content store, of which a catalog asks nothing but the physical size of archival units. -/
structure DataStore where
  warcSize : (ns auid : String) → Except CatalogError Int64

namespace DataStore

/-- Sizes by namespace and archival unit; one without a size takes no space. -/
def sized (sizes : List ((String × String) × Int64)) : DataStore :=
  ⟨fun ns auid => .ok ((sizes.lookup (ns, auid)).getD 0)⟩

def failing (reason : String) : DataStore :=
  ⟨fun _ _ => .error (.storage (.database "au_warc_size" reason))⟩

/-- Set the size of an archival unit, if the store can answer what it is. -/
def setSize (ns auid : String) (size : Int64) (store : DataStore) : DataStore where
  warcSize otherNs otherAuid := (store.warcSize otherNs otherAuid).map fun known =>
    if otherNs = ns ∧ otherAuid = auid then size else known

def sizeIn (store : Option DataStore) (ns auid : String) : Except CatalogError Int64 :=
  match store with
  | none => .error (.lifecycle .dataStoreUnavailable)
  | some store => store.warcSize ns auid

end DataStore

end ArchiveCatalog
