/-!
# A sample document

A commented document with two workflows, to start from.
-/

namespace ToolFlow.Definition

/-- The lines of the sample. -/
def sampleLines : List String :=
  [ "# Workflow Definition",
    "# Save this file as chainprobe-workflows.yaml next to your project.",
    "",
    "# Single workflow",
    "id: search_and_get",
    "name: Search and Retrieve",
    "description: Search for items and retrieve details",
    "",
    "expectedOutcome: Successfully find and retrieve item details",
    "",
    "steps:",
    "  - tool: search_items",
    "    description: Search for items matching criteria",
    "    args:",
    "      query: \"example search\"",
    "      limit: 10",
    "    assertions:",
    "      - path: items",
    "        condition: exists",
    "        message: Search should return items array",
    "",
    "  - tool: get_item_details",
    "    description: Get details for first search result",
    "    argMapping:",
    "      id: \"$steps[0].result.items[0].id\"",
    "    assertions:",
    "      - path: name",
    "        condition: exists",
    "      - path: status",
    "        condition: equals",
    "        value: \"active\"",
    "",
    "  - tool: get_item_history",
    "    description: Optional - get history if available",
    "    optional: true",
    "    argMapping:",
    "      itemId: \"$steps[1].result.id\"",
    "",
    "---",
    "# Several workflows can share one file using YAML document separators",
    "",
    "id: create_and_verify",
    "name: Create and Verify",
    "description: Create a new item and verify it exists",
    "",
    "steps:",
    "  - tool: create_item",
    "    description: Create a new item",
    "    args:",
    "      name: \"Test Item\"",
    "      type: \"example\"",
    "",
    "  - tool: get_item_details",
    "    description: Verify the item was created",
    "    argMapping:",
    "      id: \"$steps[0].result.id\"",
    "    assertions:",
    "      - path: name",
    "        condition: equals",
    "        value: \"Test Item\"" ]

/-- The text of the sample. -/
def sampleText : String :=
  String.join (sampleLines.map fun line => line ++ "\n")

end ToolFlow.Definition
