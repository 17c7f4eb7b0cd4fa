/-! # Built-in rules

The rules document that is read when no other one is named.
-/

namespace TemplateAudit.Builtin

def text : String := "[
  \x7b
    \"id\": \"TA-000001\",
    \"name\": \"WebAppHttpsOnly\",
    \"description\": \"Web apps should only be accessible over HTTPS\",
    \"recommendation\": \"Set properties.httpsOnly to true so that all HTTP traffic is " ++
    "redirected to HTTPS\",
    \"helpUri\": \"https://learn.microsoft.com/azure/app-service/" ++
    "configure-ssl-bindings#enforce-https\",
    \"severity\": 2,
    \"evaluation\": \x7b
      \"resourceType\": \"Microsoft.Web/sites\",
      \"path\": \"properties.httpsOnly\",
      \"equals\": true
    \x7d
  \x7d,
  \x7b
    \"id\": \"TA-000002\",
    \"name\": \"WebAppFtpsOnly\",
    \"description\": \"FTP deployments to web apps should require FTPS or be disabled\",
    \"recommendation\": \"Set properties.siteConfig.ftpsState to FtpsOnly or Disabled\",
    \"helpUri\": \"https://learn.microsoft.com/azure/app-service/deploy-ftp#enforce-ftps\",
    \"severity\": 1,
    \"evaluation\": \x7b
      \"resourceType\": \"Microsoft.Web/sites\",
      \"path\": \"properties.siteConfig.ftpsState\",
      \"in\": [\"FtpsOnly\", \"Disabled\"]
    \x7d
  \x7d,
  \x7b
    \"id\": \"TA-000003\",
    \"name\": \"WebAppMinimumTls\",
    \"description\": \"Web apps should use the latest TLS version\",
    \"recommendation\": \"Set properties.siteConfig.minTlsVersion to 1.2 or later\",
    \"helpUri\": \"https://learn.microsoft.com/azure/app-service/overview-tls\",
    \"severity\": 1,
    \"evaluation\": \x7b
      \"resourceType\": \"Microsoft.Web/sites\",
      \"path\": \"properties.siteConfig.minTlsVersion\",
      \"in\": [\"1.2\", \"1.3\"]
    \x7d
  \x7d,
  \x7b
    \"id\": \"TA-000004\",
    \"name\": \"ApiAppCorsRestricted\",
    \"description\": \"CORS should not allow every origin to access API apps\",
    \"recommendation\": \"Replace the '*' entry in properties.siteConfig.cors.allowedOrigins " ++
    "with the origins that need access\",
    \"severity\": 3,
    \"evaluation\": \x7b
      \"resourceType\": \"Microsoft.Web/sites\",
      \"where\": \x7b
        \"path\": \"kind\",
        \"contains\": \"api\"
      \x7d,
      \"allOf\": [
        \x7b
          \"path\": \"properties.siteConfig.cors.allowedOrigins[*]\",
          \"notEquals\": \"*\"
        \x7d
      ]
    \x7d
  \x7d,
  \x7b
    \"id\": \"TA-000005\",
    \"name\": \"SqlMinimumTls\",
    \"description\": \"SQL servers should require TLS 1.2 or later for client connections\",
    \"recommendation\": \"Set properties.minimalTlsVersion to 1.2\",
    \"helpUri\": \"https://learn.microsoft.com/azure/azure-sql/database/" ++
    "connectivity-settings#minimal-tls-version\",
    \"severity\": 2,
    \"evaluation\": \x7b
      \"resourceType\": \"Microsoft.Sql/servers\",
      \"path\": \"properties.minimalTlsVersion\",
      \"in\": [\"1.2\", \"1.3\"]
    \x7d
  \x7d,
  \x7b
    \"id\": \"TA-000006\",
    \"name\": \"SqlFirewallNotOpenToInternet\",
    \"description\": \"SQL server firewall rules should not allow the whole IPv4 range\",
    \"recommendation\": \"Narrow startIpAddress and endIpAddress to the addresses that need " ++
    "access\",
    \"severity\": 1,
    \"evaluation\": \x7b
      \"resourceType\": \"Microsoft.Sql/servers/firewallRules\",
      \"anyOf\": [
        \x7b
          \"path\": \"properties.startIpAddress\",
          \"notEquals\": \"0.0.0.0\"
        \x7d,
        \x7b
          \"path\": \"properties.endIpAddress\",
          \"notEquals\": \"255.255.255.255\"
        \x7d
      ]
    \x7d
  \x7d,
  \x7b
    \"id\": \"TA-000007\",
    \"name\": \"NsgManagementPortsClosed\",
    \"description\": \"Management ports should not be open to inbound traffic\",
    \"recommendation\": \"Deny inbound traffic on ports 22 and 3389, or restrict it with " ++
    "just-in-time access\",
    \"helpUri\": \"https://learn.microsoft.com/azure/defender-for-cloud/" ++
    "just-in-time-access-usage\",
    \"severity\": 1,
    \"evaluation\": \x7b
      \"resourceType\": \"Microsoft.Network/networkSecurityGroups\",
      \"path\": \"properties.securityRules[*]\",
      \"where\": \x7b
        \"allOf\": [
          \x7b
            \"path\": \"properties.direction\",
            \"equals\": \"Inbound\"
          \x7d,
          \x7b
            \"path\": \"properties.access\",
            \"equals\": \"Allow\"
          \x7d
        ]
      \x7d,
      \"allOf\": [
        \x7b
          \"path\": \"properties.destinationPortRange\",
          \"notEquals\": \"22\"
        \x7d,
        \x7b
          \"path\": \"properties.destinationPortRange\",
          \"notEquals\": \"3389\"
        \x7d
      ]
    \x7d
  \x7d,
  \x7b
    \"id\": \"TA-000008\",
    \"name\": \"StorageHttpsOnly\",
    \"description\": \"Storage accounts should only accept secure transfer\",
    \"recommendation\": \"Remove properties.supportsHttpsTrafficOnly or set it to true\",
    \"severity\": 2,
    \"evaluation\": \x7b
      \"resourceType\": \"Microsoft.Storage/storageAccounts\",
      \"anyOf\": [
        \x7b
          \"path\": \"properties.supportsHttpsTrafficOnly\",
          \"exists\": false
        \x7d,
        \x7b
          \"path\": \"properties.supportsHttpsTrafficOnly\",
          \"equals\": true
        \x7d
      ]
    \x7d
  \x7d\n]\n"

end TemplateAudit.Builtin
