/-! The query by which a GraphQL server tells its schema. It is sent as an indented block. -/

namespace ThemeBlocks.Schema

def queryLines : List String :=
  ["query IntrospectionQuery \x7b",
    "  __schema \x7b",
    "    queryType \x7b name \x7d",
    "    mutationType \x7b name \x7d",
    "    subscriptionType \x7b name \x7d",
    "    types \x7b",
    "      ...FullType",
    "    \x7d",
    "    directives \x7b",
    "      name",
    "      description",
    "      locations",
    "      args \x7b",
    "        ...InputValue",
    "      \x7d",
    "    \x7d",
    "  \x7d",
    "\x7d",
    "",
    "fragment FullType on __Type \x7b",
    "  kind",
    "  name",
    "  description",
    "  fields(includeDeprecated: true) \x7b",
    "    name",
    "    description",
    "    args \x7b",
    "      ...InputValue",
    "    \x7d",
    "    type \x7b",
    "      ...TypeRef",
    "    \x7d",
    "    isDeprecated",
    "    deprecationReason",
    "  \x7d",
    "  inputFields \x7b",
    "    ...InputValue",
    "  \x7d",
    "  interfaces \x7b",
    "    ...TypeRef",
    "  \x7d",
    "  enumValues(includeDeprecated: true) \x7b",
    "    name",
    "    description",
    "    isDeprecated",
    "    deprecationReason",
    "  \x7d",
    "  possibleTypes \x7b",
    "    ...TypeRef",
    "  \x7d",
    "\x7d",
    "",
    "fragment InputValue on __InputValue \x7b",
    "  name",
    "  description",
    "  type \x7b ...TypeRef \x7d",
    "  defaultValue",
    "\x7d",
    "",
    "fragment TypeRef on __Type \x7b",
    "  kind",
    "  name",
    "  ofType \x7b",
    "    kind",
    "    name",
    "    ofType \x7b",
    "      kind",
    "      name",
    "      ofType \x7b",
    "        kind",
    "        name",
    "        ofType \x7b",
    "          kind",
    "          name",
    "          ofType \x7b",
    "            kind",
    "            name",
    "            ofType \x7b",
    "              kind",
    "              name",
    "              ofType \x7b",
    "                kind",
    "                name",
    "              \x7d",
    "            \x7d",
    "          \x7d",
    "        \x7d",
    "      \x7d",
    "    \x7d",
    "  \x7d",
    "\x7d"]

def blockMargin (depth : Nat) : String :=
  .ofList (List.replicate (4 * depth) ' ')

def blockLine (line : String) : String :=
  if line.isEmpty then "\n" else blockMargin 3 ++ line ++ "\n"

def introspectionQuery : String :=
  "\n" ++ String.join (queryLines.map blockLine) ++ blockMargin 2

end ThemeBlocks.Schema
