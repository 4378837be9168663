import Std.Data.HashMap
import Std.Data.TreeMap
/-!
# Dictionaries of fragments

A dictionary answers two questions about a name: which expression fragment is
stored under it, and whether a template may mention it. Reading a template asks
only the second question, writing the expression asks only the first.
-/
namespace Stencil

/-- Named expression fragments. Unless said otherwise, a template may mention
exactly the names that have a fragment. -/
structure Dictionary where
  fragment : String → Option String
  contains : String → Bool := fun name => (fragment name).isSome

namespace Dictionary

def ofTreeMap (entries : Std.TreeMap String String compare) : Dictionary where
  fragment name := entries[name]?

def ofHashMap (entries : Std.HashMap String String) : Dictionary where
  fragment name := entries[name]?

/-- Templates may also mention the names in `promised`, whose fragments are still missing. -/
def promising (promised : List String) (dictionary : Dictionary) : Dictionary where
  fragment := dictionary.fragment
  contains name := dictionary.contains name || promised.contains name

/-- A view that shares the fragments of a dictionary and nothing else: what the
dictionary says about `contains` is decided anew from its fragments. -/
def shared (dictionary : Dictionary) : Dictionary where
  fragment := dictionary.fragment

/-- Every name that a template may mention has a fragment, and no other name has one. -/
def Lawful (dictionary : Dictionary) : Prop :=
  ∀ name, dictionary.contains name = (dictionary.fragment name).isSome

end Dictionary

end Stencil
