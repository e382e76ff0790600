import RecordFix.Fix.Bind
import RecordFix.Fix.Conditional
import RecordFix.Fix.Method.Leaf
import RecordFix.Fix.Method.Whole
import RecordFix.Fix.Registry

/-!
# The commands of a new registry
-/

namespace RecordFix

/-- The methods by name. -/
def Method.all : List (String × Method) :=
  [("include", Method.includeFix), ("nothing", Method.nothing), ("put_filemap", Method.putFilemap),
   ("put_map", Method.putMap), ("add_field", Method.addField), ("array", Method.array),
   ("copy_field", Method.copyField), ("format", Method.format), ("hash", Method.hash),
   ("move_field", Method.moveField), ("parse_text", Method.parseText), ("paste", Method.paste),
   ("random", Method.random), ("reject", Method.reject), ("remove_field", Method.removeField),
   ("rename", Method.rename), ("retain", Method.retain), ("set_array", Method.setArray),
   ("set_field", Method.setField), ("set_hash", Method.setHash), ("vacuum", Method.vacuum),
   ("append", Method.append), ("capitalize", Method.capitalize), ("count", Method.count),
   ("downcase", Method.downcase), ("filter", Method.filter), ("index", Method.index),
   ("join_field", Method.joinField), ("lookup", Method.lookup), ("prepend", Method.prepend),
   ("replace_all", Method.replaceAll), ("reverse", Method.reverse), ("sort_field", Method.sortField),
   ("split_field", Method.splitField), ("substring", Method.substring), ("sum", Method.sum),
   ("trim", Method.trim), ("uniq", Method.uniq), ("upcase", Method.upcase)]

/-- The registry of all built-in commands. -/
def Registry.builtin : Registry where
  methods := Method.all
  conditionals := Conditional.all
  binds := [("list", Bind.list)]

end RecordFix
