/-!
# Header fields

A collection of fields holds every spelling of a name at most once.  Names that differ in
case are different fields here, though a server takes them for the same.
-/

namespace AdminAccess

/-- Fields with distinct names, the most recently set last. -/
structure Headers where
  entries : List (String × String)
  distinct : (entries.map Prod.fst).Nodup
  deriving DecidableEq, Repr

namespace Headers

def empty : Headers :=
  ⟨[], List.nodup_nil⟩

instance : Inhabited Headers :=
  ⟨empty⟩

def get? (headers : Headers) (name : String) : Option String :=
  headers.entries.lookup name

def size (headers : Headers) : Nat :=
  headers.entries.length

def filter (keep : String → Bool) (headers : Headers) : Headers where
  entries := headers.entries.filter fun entry => keep entry.1
  distinct := headers.distinct.sublist (List.filter_sublist.map Prod.fst)

theorem not_mem_filter_ne (entries : List (String × String)) (name : String) :
    name ∉ (entries.filter fun entry => entry.1 != name).map Prod.fst := by
  intro h
  obtain ⟨entry, hentry, hname⟩ := List.mem_map.1 h
  have := (List.mem_filter.1 hentry).2
  simp [hname] at this

def insert (headers : Headers) (name value : String) : Headers where
  entries := (headers.filter (· != name)).entries ++ [(name, value)]
  distinct := by
    rw [List.map_append, List.nodup_append]
    refine ⟨(headers.filter (· != name)).distinct, by simp, ?_⟩
    intro a ha b hb hab
    simp only [List.map_cons, List.map_nil, List.mem_singleton] at hb
    subst hb hab
    exact not_mem_filter_ne headers.entries a ha

/-- The fields of a list; of several with one name the last counts. -/
def ofList (entries : List (String × String)) : Headers :=
  entries.foldl (fun soFar entry => soFar.insert entry.1 entry.2) empty

/-- A name without regard to the case of ASCII letters. -/
def sameName (a b : String) : Bool :=
  a.toList.map Char.toLower == b.toList.map Char.toLower

def replace (headers : Headers) (name value : String) : Headers :=
  (headers.filter fun other => !sameName other name).insert name value

end Headers

end AdminAccess
