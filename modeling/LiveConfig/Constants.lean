import LiveConfig.Environment

/-!
# The names known to the program, as a table

Every name with a meaning of its own, by the word that configuration authors use for it.
-/

namespace LiveConfig

/-- The names known to the program by their words. -/
def knownNames : List (String × Value) :=
  [("APPLICATION_CONFIG_FILE_PREFIX", .str Names.fileLayer),
    ("APPLICATION_CONFIG_LAYER_NAME", .str Names.applicationConfig),
    ("CONFIG_FILE_EXTENSIONS", .tuple (Names.fileEndings.map Value.ofString)),
    ("CONFIG_LOCATION_KEY", .str Names.configLocationKey),
    ("CONFIG_NAME_KEY", .str Names.configNameKey),
    ("DEFAULT_CONFIG_NAME", .str Names.defaultConfigName),
    ("DEFAULT_PROFILE", .str Names.defaultProfile),
    ("DEFAULT_PROPERTIES_LAYER_NAME", .str Names.defaultProperties),
    ("JMX_ENABLED_KEY", .str Names.jmxEnabledKey),
    ("JNDI_LAYER_NAME", .str Names.jndiProperties),
    ("MAIN_SOURCES_KEY", .str Names.mainSourcesKey),
    ("REFRESH_ARGS_LAYER_NAME", .str Names.refreshArgs),
    ("SERVLET_CONFIG_LAYER_NAME", .str Names.servletConfig),
    ("SERVLET_CONTEXT_LAYER_NAME", .str Names.servletContext),
    ("STANDARD_LAYER_NAMES", .set (standardLayers.map Value.str)),
    ("SYSTEM_ENVIRONMENT_LAYER_NAME", .str Names.systemEnvironment),
    ("SYSTEM_PROPERTIES_LAYER_NAME", .str Names.systemProperties)]

end LiveConfig
