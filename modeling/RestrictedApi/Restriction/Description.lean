import RestrictedApi.Restriction
import RestrictedApi.Text.Quoted

/-!
# Restrictions in words

The one-line description of a restriction that is shown when a configuration is inspected.
Predicates cannot be shown; the line says whether they are set.
-/

namespace RestrictedApi
namespace Restriction

def describeSet (names : Std.TreeSet String) : String :=
  "\x7b" ++ ", ".intercalate (names.toList.map Text.quoted) ++ "\x7d"

def describe (restriction : Restriction) : String :=
  "ApiRuleConfig \x7b " ++ ", ".intercalate [
    "base_namespace: " ++ Text.quoted restriction.baseNamespace,
    "restricted_annotation: " ++ Text.quoted restriction.marker,
    "ignored_namespaces: " ++ describeSet restriction.ignoredNamespaces,
    "ignored_types: " ++ describeSet restriction.ignoredTypes,
    "namespace_filter: " ++ toString restriction.namespaceFilter.isSome,
    "type_filter: " ++ toString restriction.typeFilter.isSome] ++ " \x7d"

end Restriction
end RestrictedApi
