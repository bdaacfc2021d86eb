import ExprLang.Entries
import ExprLang.Value.Equality

/-!
# Contexts

The names that an expression is evaluated against, with their values, in the order in which they were set.
-/

namespace ExprLang

/-- Names with values, each name occurring once. -/
structure Context where
  entries : List (String × Value)
  nodup : (Entries.keys entries).Nodup

namespace Context

/-- The context without names. -/
def empty : Context := ⟨[], by simp [Entries.keys]⟩

instance : Inhabited Context := ⟨empty⟩

/-- Sets the value of a name. -/
def set (ctx : Context) (name : String) (value : Value) : Context :=
  ⟨Entries.insert name value ctx.entries, Entries.nodup_keys_insert ctx.nodup⟩

/-- The value of a name, if it is bound. -/
def get? (ctx : Context) (name : String) : Option Value := ctx.entries.lookup name

/-- The value of a name, undefined if it is not bound. -/
def get (ctx : Context) (name : String) : Value := (ctx.get? name).getD .undefined

/-- Whether a name is bound. -/
def has (ctx : Context) (name : String) : Bool := (ctx.get? name).isSome

/-- Removes a name. -/
def remove (ctx : Context) (name : String) : Context :=
  ⟨Entries.erase name ctx.entries, Entries.nodup_keys_erase ctx.nodup⟩

/-- Removes a name and gives the value that it had, if it was bound. -/
def take (ctx : Context) (name : String) : Option Value × Context := (ctx.get? name, ctx.remove name)

/-- The names in the order in which they were set. -/
def names (ctx : Context) : List String := Entries.keys ctx.entries

/-- The context of a list of names with values, the last value of a name counting. -/
def ofList (entries : List (String × Value)) : Context :=
  ⟨Entries.ofList entries, Entries.nodup_keys_foldl_insert entries (by simp [Entries.keys])⟩

/-- Whether two contexts bind the same names to values that are alike. -/
def alike (a b : Context) : Bool :=
  a.entries.length == b.entries.length && Value.alikeEntries a.entries b.entries

end Context

end ExprLang
