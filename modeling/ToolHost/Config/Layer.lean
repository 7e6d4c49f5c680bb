import ToolHost.Value

/-!
# Layers of configuration

Configurations are laid over one another, the later over the earlier. Mappings are merged entry by
entry at every depth; anything else is replaced as a whole; a null leaves what lies below. Of two
mappings that contain themselves by the same keys neither can be laid over the other, since there
is no end to their entries.
-/
namespace ToolHost.Config

/-- How deep mappings that contain themselves are followed. The mappings of one document are nested
less than half as deep, so what goes deeper goes round in circles, below and above. -/
def deepest : Nat := 974

/-- A mapping with another one laid over it, either of which may contain itself; none if that goes
deeper than a bound. -/
def overlayWithin : Nat → Entries → Entries → Option Entries
  | 0, _, _ => none
  | depth + 1, base, entries =>
    entries.foldlM (fun es (key, v) =>
      if v.isNull then some es
      else
        match (es.get? key).bind Value.entries?, v.entries? with
        | some below, some above =>
          (overlayWithin depth below above).map fun merged => es.put key (.map merged)
        | _, _ => some (es.put key v)) base

mutual

/-- A mapping with another one laid over it. -/
def overlay (base : Entries) : Entries → Entries
  | [] => base
  | (key, v) :: rest =>
    match laidOver (base.get? key) v with
    | none => overlay base rest
    | some merged => overlay (base.put key merged) rest

/-- What a value makes of the one below it; none if it leaves that alone. -/
def laidOver (below : Option Value) : Value → Option Value
  | .scalar .null => none
  | .map entries =>
    match below.bind Value.entries? with
    | some base => some (.map (overlay base entries))
    | none => some (.map entries)
  | .loop label body =>
    let v := Value.loop label body
    match below.bind Value.entries?, v.entries? with
    | some base, some entries => (overlayWithin deepest base entries).map .map
    | _, _ => some v
  | v => some v

end

/-- Whether two mappings that contain themselves would be laid over each other. -/
def isEndless (base : Entries) : Entries → Bool
  | [] => false
  | (key, v) :: rest => entryIsEndless (base.get? key) v || isEndless base rest
where
  /-- The same of one entry and what lies below it. -/
  entryIsEndless (below : Option Value) : Value → Bool
    | .map entries =>
      match below.bind Value.entries? with
      | some base => isEndless base entries
      | none => false
    | .loop label body =>
      match below.bind Value.entries?, (Value.loop label body).entries? with
      | some base, some entries => (overlayWithin deepest base entries).isNone
      | _, _ => false
    | _ => false

/-- All layers as one mapping, from the lowest to the highest. -/
def cascade (layers : List Entries) : Entries :=
  layers.foldl (fun result layer => if layer.isEmpty then result else overlay result layer) []

end ToolHost.Config
