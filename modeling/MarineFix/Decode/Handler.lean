import MarineFix.Decode.Gga
import MarineFix.Decode.Rmc
import MarineFix.Decode.Vtg
/-!
A table of handlers keeps the sentence kinds in the order in which they arrived.
-/

namespace MarineFix

/-- A part of a longer message waits for the other parts. -/
inductive Handler where
  | rmc
  | gga
  | vtg
  | awaitParts
deriving DecidableEq

/-- A handler needs the fields of a sentence only. -/
def Handler.decodeFields (handler : Handler) (source : NavigationSystem) (fields : List Text) :
    Except FieldFailure Record :=
  match handler with
  | .rmc => (Rmc.decode source fields).map .rmc
  | .gga => (Gga.decode source fields).map .gga
  | .vtg => (Vtg.decode source fields).map .vtg
  | .awaitParts => .ok .incomplete

/-- The checksum of the sentence is left aside. -/
def Handler.decode (handler : Handler) (source : NavigationSystem) (sentence : Text) :
    Except FieldFailure Record :=
  handler.decodeFields source (Sentence.fields sentence)

/-- Every kind stands in the table once. -/
structure HandlerTable where
  entries : List (Text × Handler)
  nodup : (entries.map Prod.fst).Nodup

namespace HandlerTable

def empty : HandlerTable := ⟨[], by simp⟩

def kinds (table : HandlerTable) : List Text := table.entries.map Prod.fst

def find? (table : HandlerTable) (kind : Text) : Option Handler := table.entries.lookup kind

/-- A kind that is present keeps its place. -/
def replace (kind : Text) (handler : Handler) (entry : Text × Handler) : Text × Handler :=
  if entry.1 = kind then (entry.1, handler) else entry

theorem map_fst_replace (kind : Text) (handler : Handler) (entries : List (Text × Handler)) :
    (entries.map (replace kind handler)).map Prod.fst = entries.map Prod.fst := by
  simp only [List.map_map]
  apply List.map_congr_left
  intro entry _
  simp only [Function.comp, replace]
  split <;> rfl

/-- A new kind goes to the end of the table. -/
def insert (table : HandlerTable) (kind : Text) (handler : Handler) : HandlerTable :=
  if known : kind ∈ table.kinds then
    ⟨table.entries.map (replace kind handler), by rw [map_fst_replace]; exact table.nodup⟩
  else
    ⟨table.entries ++ [(kind, handler)], by
      rw [List.map_append, List.nodup_append]
      refine ⟨table.nodup, by simp, ?_⟩
      intro first found second single
      simp only [List.map_cons, List.map_nil, List.mem_singleton] at single
      subst single
      exact fun same => known (same ▸ found)⟩

/-- The last of several entries for one kind counts. -/
def ofList (entries : List (Text × Handler)) : HandlerTable :=
  entries.foldl (fun table entry => table.insert entry.1 entry.2) empty

/-- The table that a decoder has unless it is given another one. -/
def standard : HandlerTable :=
  ofList [(Gga.kind, .gga), (Rmc.kind, .rmc), (Vtg.kind, .vtg)]

/-- The kinds of the table in the order of their code points. -/
def supported (table : HandlerTable) : List Text :=
  table.kinds.mergeSort fun first second => !second.lex first

theorem kinds_insert_of_mem {table : HandlerTable} {kind : Text} (known : kind ∈ table.kinds)
    (handler : Handler) : (table.insert kind handler).kinds = table.kinds := by
  rw [insert, dif_pos known]
  exact map_fst_replace kind handler table.entries

theorem kinds_insert_of_not_mem {table : HandlerTable} {kind : Text}
    (unknown : kind ∉ table.kinds) (handler : Handler) :
    (table.insert kind handler).kinds = table.kinds ++ [kind] := by
  rw [insert, dif_neg unknown]
  exact List.map_append

theorem mem_supported {table : HandlerTable} {kind : Text} :
    kind ∈ table.supported ↔ kind ∈ table.kinds := by
  simp [supported]

end HandlerTable

end MarineFix
