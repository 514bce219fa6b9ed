/-
# Samples

A text of each of the three languages to try the formatting on.
-/
import StructuredText.Text.Lines

namespace StructuredText.Samples

/-- Lines of a text. -/
def ofLines (lines : List String) : Text := Text.unlines (lines.map Text.ofString)

/-- A JSON document. -/
def json : Text := ofLines [
  "\x7b",
  "  \"user\": \x7b",
  "    \"id\": 12345,",
  "    \"name\": \"João Silva\",",
  "    \"email\": \"joao@example.com\",",
  "    \"active\": true,",
  "    \"roles\": [\"admin\", \"developer\"],",
  "    \"metadata\": \x7b",
  "      \"created_at\": \"2024-01-15T10:30:00Z\",",
  "      \"last_login\": \"2024-02-16T15:45:30Z\",",
  "      \"preferences\": \x7b",
  "        \"theme\": \"dark\",",
  "        \"notifications\": true,",
  "        \"language\": \"pt-BR\"",
  "      \x7d",
  "    \x7d",
  "  \x7d,",
  "  \"orders\": [",
  "    \x7b\"id\": 1, \"total\": 299.99, \"status\": \"completed\"\x7d,",
  "    \x7b\"id\": 2, \"total\": 149.5, \"status\": \"pending\"\x7d,",
  "    \x7b\"id\": 3, \"total\": 599.0, \"status\": \"shipped\"\x7d",
  "  ]",
  "\x7d"]

/-- An XML document. -/
def xml : Text := ofLines [
  "<?xml version=\"1.0\" encoding=\"UTF-8\"?>",
  "<bookstore>",
  "  <book category=\"cooking\">",
  "    <title lang=\"en\">Everyday Italian</title>",
  "    <author>Giada De Laurentiis</author>",
  "    <year>2005</year>",
  "    <price>30.00</price>",
  "  </book>",
  "  <book category=\"children\">",
  "    <title lang=\"en\">Harry Potter</title>",
  "    <author>J K. Rowling</author>",
  "    <year>2005</year>",
  "    <price>29.99</price>",
  "  </book>",
  "  <book category=\"web\">",
  "    <title lang=\"en\">Learning XML</title>",
  "    <author>Erik T. Ray</author>",
  "    <year>2003</year>",
  "    <price>39.95</price>",
  "  </book>",
  "</bookstore>"]

/-- A query. -/
def sql : Text := Text.concat [
  "select u.id, u.name, u.email, count(o.id) as order_count, ",
  "sum(o.total) as total_spent from users u left join orders o ",
  "on o.user_id = u.id and o.status = 'completed' ",
  "where u.active = 1 and u.created_at >= '2024-01-01' ",
  "group by u.id, u.name, u.email having count(o.id) > 2 ",
  "order by total_spent desc limit 50"]

end StructuredText.Samples
